import LightBus.Proofs.Bus.Answers
import LightBus.Proofs.Bus.Listening
import LightBus.Proofs.Package.RoundTrip

/-!
# Delivery of frames

What a sender writes, the bus of the receiver tells apart and the receiver reads: the three agree on where a frame
ends.

* (packages) After a break, the frame of a package makes up exactly the frame that the bus expects
  (`expectedNotice_frame`).
* (answers) Without a break, the answer to a branch probe makes up exactly the answer that the bus looks for
  (`holdsReply_replyFrame`), and its identifier is read from it (`Discovery.uidOfReply?_append`).

In both cases the frame is told once, whatever the chunks are, and it lies in the buffer then:
`Bus.delivery_of_frames`.
-/

namespace LightBus

/-! ### Packages -/

private theorem announcedSize_frame (p : Package) :
    announcedSize (UInt8.ofNat (rdmHeaderSize + p.data.bytes.length)) = p.frame.length := by
  have hle := p.data.length_le
  rw [maxPayloadSize] at hle
  rw [p.length_frame, announcedSize, UInt8.toNat_ofNat', rdmHeaderSize, minPackageSize]
  omega

/-- Whatever size is expected of other frames, the frame of a package is told as a whole. -/
theorem expectedNotice_frame (p : Package) (g : Nat) :
    expectedNotice p.frame g = some ⟨.ok, .receive, .package, p.frame.length, none⟩ := by
  have hsize := announcedSize_frame p
  have hvalid : checksumValid p.frame = true := checksumValid_iff.2 ⟨_, rfl⟩
  refine expectedNotice_eq_some_iff.2 (.inl ⟨_, rfl, rfl, Nat.le_of_eq hsize, ?_⟩)
  rw [hsize, List.take_length, Bus.packageStatus, if_pos hvalid]

theorem Package.length_frame_le (p : Package) : p.frame.length ≤ maxPackageSize := by
  have hle := p.data.length_le
  rw [maxPayloadSize] at hle
  rw [p.length_frame, minPackageSize, maxPackageSize]
  omega

/-! ### Answers to a branch probe -/

namespace Discovery

theorem length_spread (bytes : List UInt8) : (spread bytes).length = 2 * bytes.length := by
  induction bytes with
  | nil => rfl
  | cons x bytes ih =>
    have hpair : spread (x :: bytes) = [x ||| 0xAA, x ||| 0x55] ++ spread bytes := rfl
    rw [hpair, List.length_append, ih, List.length_cons, List.length_cons, List.length_cons, List.length_nil]
    omega

/-- No bit is set in both masks. -/
private theorem and_or_masks (x : UInt8) : (x ||| 0xAA) &&& (x ||| 0x55) = x := by
  apply UInt8.toNat_inj.1
  rw [UInt8.toNat_and, UInt8.toNat_or, UInt8.toNat_or, ← Nat.or_and_distrib_left]
  exact Nat.or_zero _

theorem gather_spread (bytes : List UInt8) : gather (spread bytes) = bytes := by
  induction bytes with
  | nil => rfl
  | cons x bytes ih =>
    have hpair : gather (spread (x :: bytes)) = ((x ||| 0xAA) &&& (x ||| 0x55)) :: gather (spread bytes) := rfl
    rw [hpair, and_or_masks, ih]

theorem length_spread_bytes (uid : Uid) : (spread uid.bytes).length = 12 := by
  obtain ⟨_, _, _, _, _, _, hbytes, -⟩ := uid.exists_bytes
  rw [length_spread, hbytes]
  rfl

theorem length_spread_word (w : UInt16) : (spread (word w)).length = 4 := by
  rw [length_spread, length_word]

theorem length_replyBody (uid : Uid) : (replyBody uid).length = discoveryBodySize := by
  rw [replyBody, List.length_append, length_spread_bytes, length_spread_word, discoveryBodySize]

theorem length_replyFrame (uid : Uid) (preamble : Nat) :
    (replyFrame uid preamble).length = min preamble maxPreambleLength + 1 + discoveryBodySize := by
  rw [replyFrame, List.length_append, List.length_replicate, List.length_cons, length_replyBody]
  omega

/-- What is read from slots that have the coded identifier and its checksum behind the separator. -/
private theorem uidOfReply?_of_body {frame body : List UInt8} {index : Nat} {b0 b1 b2 b3 b4 b5 : UInt8} {uid : Uid}
    (hindex : separatorIndex? frame = some index) (hbody : frame.drop (index + 1) = body)
    (hsize : discoveryBodySize ≤ body.length) (hsum : gather (slice body 12 4) = word (checksum (body.take 12)))
    (hbytes : gather (body.take 12) = [b0, b1, b2, b3, b4, b5])
    (huid : Address.ofBytes b0 b1 b2 b3 b4 b5 = .device uid) :
    uidOfReply? frame = .ok uid := by
  have hlong : ¬body.length < discoveryBodySize := Nat.not_lt_of_le hsize
  have hvalid : ¬gather (slice body 12 4) ≠ word (checksum (body.take 12)) := not_not_intro hsum
  unfold uidOfReply?
  -- Which address the bytes are is known already; a name for the way it is read keeps it from being computed.
  obtain ⟨read, hread⟩ : ∃ read, Address.ofBytes = read := ⟨_, rfl⟩
  rw [hread] at huid ⊢
  simp only [hindex, hbody, if_neg hlong, if_neg hvalid, hbytes, huid]

/-- The slots behind the separator. -/
private theorem drop_separated (n : Nat) (body : List UInt8) :
    (List.replicate n preambleByte ++ separatorByte :: body).drop (n + 1) = body := by
  rw [← List.drop_drop, List.drop_left' List.length_replicate]
  rfl

/-- What is read is refused if the checksum is not that of the coded identifier. -/
theorem uidOfReply?_of_wrongChecksum {n : Nat} {body : List UInt8} (hn : n ≤ maxPreambleLength)
    (hsize : discoveryBodySize ≤ body.length) (hwrong : gather (slice body 12 4) ≠ word (checksum (body.take 12))) :
    uidOfReply? (List.replicate n preambleByte ++ separatorByte :: body) = .error .wrongChecksum := by
  unfold uidOfReply?
  simp only [separatorIndex?_separator hn, drop_separated, if_neg (Nat.not_lt_of_le hsize), if_pos hwrong]

/-- The coded identifier of a device is read if the slots behind it are the checksum. -/
theorem uidOfReply?_coded {uid : Uid} {n : Nat} {tail : List UInt8} (huid : uid.device ≠ 0xFFFFFFFF)
    (hn : n ≤ maxPreambleLength) (htail : 4 ≤ tail.length) :
    uidOfReply? (List.replicate n preambleByte ++ separatorByte :: (spread uid.bytes ++ tail)) =
      if gather (tail.take 4) = word (checksum (spread uid.bytes)) then .ok uid else .error .wrongChecksum := by
  have hcoded : (spread uid.bytes ++ tail).take 12 = spread uid.bytes := List.take_left' (length_spread_bytes uid)
  have hsum : slice (spread uid.bytes ++ tail) 12 4 = tail.take 4 := by
    rw [slice, List.drop_left' (length_spread_bytes uid)]
  have hsize : discoveryBodySize ≤ (spread uid.bytes ++ tail).length := by
    rw [List.length_append, length_spread_bytes, discoveryBodySize]
    omega
  obtain ⟨b0, b1, b2, b3, b4, b5, hbytes, hread⟩ := uid.exists_bytes
  split
  · rename_i hright
    refine uidOfReply?_of_body (separatorIndex?_separator hn _) (drop_separated n _) hsize ?_ ?_
      (Address.ofBytes_eq_device_iff.2 ⟨hread, huid⟩)
    · rw [hsum, hcoded, hright]
    · rw [hcoded, gather_spread, hbytes]
  · rename_i hwrong
    refine uidOfReply?_of_wrongChecksum hn hsize ?_
    rwa [hsum, hcoded]

/-- The identifier of a device is read from its answer, whatever follows. -/
theorem uidOfReply?_append {uid : Uid} (huid : uid.device ≠ 0xFFFFFFFF) (preamble : Nat) (rest : List UInt8) :
    uidOfReply? (replyFrame uid preamble ++ rest) = .ok uid := by
  have hframe : replyFrame uid preamble ++ rest = List.replicate (min preamble maxPreambleLength) preambleByte ++
      separatorByte :: (spread uid.bytes ++ (spread (word (checksum (spread uid.bytes))) ++ rest)) := by
    rw [replyFrame, replyBody, List.append_assoc, List.cons_append, List.append_assoc]
  have htail : 4 ≤ (spread (word (checksum (spread uid.bytes))) ++ rest).length := by
    rw [List.length_append, length_spread_word]
    omega
  rw [hframe, uidOfReply?_coded huid (Nat.min_le_right preamble maxPreambleLength) htail,
    List.take_left' (length_spread_word _), gather_spread, if_pos rfl]

theorem uidOfReply?_replyFrame {uid : Uid} (huid : uid.device ≠ 0xFFFFFFFF) (preamble : Nat) :
    uidOfReply? (replyFrame uid preamble) = .ok uid := by
  have hread := uidOfReply?_append huid preamble []
  rwa [List.append_nil] at hread

end Discovery

theorem holdsReply_replyFrame (uid : Uid) (preamble : Nat) :
    HoldsReply (Discovery.replyFrame uid preamble) (min preamble maxPreambleLength) :=
  ⟨Nat.min_le_right _ _, Discovery.replyBody uid, rfl, Nat.le_of_eq (Discovery.length_replyBody uid).symm⟩

variable {s c : List UInt8} {p q : Nat}

/-- The slots tell how long the preamble is. -/
private theorem HoldsReply.unique (hp : HoldsReply s p) (hq : HoldsReply s q) : p = q := by
  have hsame := (classify_of_holdsReply hp 0).symm.trans (classify_of_holdsReply hq 0)
  injection hsame with _ hsize
  omega

namespace Bus

variable {b b' : Bus}

/-- After the receive path was reset, and as long as nothing has come, the bus is ready for an answer. -/
private theorem Reachable.unbroken (h : b.Reachable) (hidle : b.rx = .idle) : Unbroken [] b := by
  obtain ⟨hcursor, hbreak⟩ := h.fresh hidle
  refine ⟨?_, hbreak, h.bounded.frame, hcursor, rfl⟩
  rw [frameFinished, hidle]

/-! ### Whole receptions -/

/-- The notice of an answer with `preamble` preamble bytes that is read from the slots. -/
def replyNotice (s : List UInt8) (preamble : Nat) : Notice :=
  ⟨replyStatus (s.take (preamble + 1 + discoveryBodySize)), .receive, .discoveryReply,
    preamble + 1 + discoveryBodySize, none⟩

/-- An answer is told when its last slot comes, and then it lies in the buffer. -/
private theorem Unbroken.finished (h : Unbroken s b) (hs : HoldsReply s p) (now : Nat) :
    notices (b.conclude false now).1 = [replyNotice s p] ∧ Finished (replyNotice s p) s (b.conclude false now).2 := by
  have hsize := hs.size_le
  obtain ⟨htold, hrx, -⟩ := h.conclude_of_holdsReply hs now
  have hcursor : (b.conclude false now).2.cursor = s.length := (cursor_conclude false now).trans h.cursor
  have hframe := b.frame_conclude false now
  refine ⟨htold, hrx, hframe ▸ h.buffer, hcursor ▸ hsize, Nat.le_of_eq hcursor, ?_⟩
  show (b.conclude false now).2.frame.take (p + 1 + discoveryBodySize) = s.take (p + 1 + discoveryBodySize)
  rw [hframe, ← Nat.min_eq_left hsize, ← List.take_take, h.slots, Nat.min_eq_left hsize]

/-- Slots that hold an answer lead to its notice and to no other one, whatever the chunks are, and then the answer
lies in the buffer. -/
private theorem Unbroken.receiveAll_of_holdsReply {chunks : List (List UInt8 × Nat)} (h : Unbroken s b)
    (hs : Unfinished s) (hreply : HoldsReply (s ++ slotsOf chunks) p)
    (hfits : (s ++ slotsOf chunks).length ≤ maxFrameSize) :
    notices (b.receiveAll chunks).1 = [replyNotice (s ++ slotsOf chunks) p] ∧
      Finished (replyNotice (s ++ slotsOf chunks) p) (s ++ slotsOf chunks) (b.receiveAll chunks).2 := by
  induction chunks generalizing s b with
  | nil =>
    rw [slotsOf, List.flatMap_nil, List.append_nil] at hreply
    exact absurd hreply (hs.openReply.1 p)
  | cons chunk rest ih =>
    obtain ⟨c, now⟩ := chunk
    rw [slotsOf_cons, ← List.append_assoc] at hreply hfits ⊢
    have hfirst : (s ++ c).length ≤ maxFrameSize := by
      rw [List.length_append] at hfits
      omega
    have hnext := h.advance hfirst
    rw [Bus.receiveAll]
    dsimp only
    rw [notices_append, h.gathered.receive hfirst]
    rcases reply_cases (s ++ c) with hopen | ⟨q, hq⟩ | hspoilt
    · rw [hnext.conclude_of_unfinished hopen]
      exact ih hnext hopen hreply hfits
    · -- The answer was complete with this chunk already, so the rest of the chunks cannot change what was told.
      obtain rfl : q = p := (hq.append _).unique hreply
      obtain ⟨htold, hfinished⟩ := hnext.finished hq now
      have hsame : replyNotice (s ++ c ++ slotsOf rest) q = replyNotice (s ++ c) q := by
        rw [replyNotice, List.take_append_of_le_length hq.size_le, replyNotice]
      obtain ⟨hquiet, hend⟩ := hfinished.receiveAll hfits
      rw [htold, hquiet, hsame]
      exact ⟨rfl, hend⟩
    · have hno := classify_of_spoilt (hspoilt.append (slotsOf rest)) 0
      rw [classify_of_holdsReply hreply] at hno
      cases hno

/-- The frame of a package that comes after a break, and the answer of a device that comes without one after the
receive path was reset, are told once, as what they are, whatever the chunks are; what was sent is read from the
buffer then. -/
theorem delivery_of_frames :
    (∀ p : Package, p.Proper → ∀ b : Bus, b.Reachable → ∀ (breakAt : Nat) (chunks : List (List UInt8 × Nat)),
      slotsOf chunks = p.frame →
      let start := b.handle .break breakAt
      let done := start.2.receiveAll chunks
      notices (start.1 ++ done.1) = [⟨.ok, .receive, .package, p.frame.length, none⟩] ∧
        Package.ofFrame? (done.2.frame.take p.frame.length) = .ok p) ∧
    (∀ (uid : Uid) (preamble : Nat), uid.device ≠ 0xFFFFFFFF → ∀ b : Bus, b.Reachable → b.rx = .idle →
      ∀ chunks : List (List UInt8 × Nat), slotsOf chunks = Discovery.replyFrame uid preamble →
      let size := (Discovery.replyFrame uid preamble).length
      let done := b.receiveAll chunks
      notices done.1 = [⟨.ok, .receive, .discoveryReply, size, none⟩] ∧
        Discovery.uidOfReply? (done.2.frame.take size) = .ok uid) := by
  constructor
  · intro p hp b hb breakAt chunks hchunks start done
    have hpending : Pending start.2.sizeGuess [] start.2 := pending_onBreak hb.bounded
    have hguess : start.2.sizeGuess ≤ maxFrameSize := (hb.bounded.handle .break breakAt).guess_le
    have hfits : (slotsOf chunks).length ≤ maxFrameSize := by
      have hle := p.length_frame_le
      rw [maxPackageSize] at hle
      rw [hchunks, maxFrameSize]
      omega
    obtain ⟨htold, hframe⟩ := hpending.receiveAll chunks hguess hfits
    rw [List.nil_append, hchunks, expectedNotice_frame] at htold hframe
    refine ⟨?_, ?_⟩
    · rw [notices_append]
      exact htold
    · have hslots : done.2.frame.take p.frame.length = p.frame.take p.frame.length := (hframe _ rfl).slots
      rw [hslots, List.take_length]
      exact Package.ofFrame?_eq_ok_iff.2 ⟨hp, rfl⟩
  · intro uid preamble huid b hb hidle chunks hchunks size done
    have hsize : size = min preamble maxPreambleLength + 1 + discoveryBodySize :=
      Discovery.length_replyFrame uid preamble
    have hfits : (slotsOf chunks).length ≤ maxFrameSize := by
      rw [hchunks, Discovery.length_replyFrame, maxPreambleLength, discoveryBodySize, maxFrameSize]
      omega
    have hnone : Unfinished [] := .preamble (n := 0) (Nat.zero_le _)
    have hread := Discovery.uidOfReply?_replyFrame huid preamble
    obtain ⟨htold, hfinished⟩ := (hb.unbroken hidle).receiveAll_of_holdsReply hnone
      (hchunks.symm ▸ holdsReply_replyFrame uid preamble) hfits
    rw [List.nil_append, hchunks] at htold hfinished
    rw [replyNotice, ← hsize, List.take_length, replyStatus, hread] at htold
    refine ⟨htold, ?_⟩
    have hslots : done.2.frame.take (min preamble maxPreambleLength + 1 + discoveryBodySize) = _ := hfinished.slots
    rw [hsize, hslots, replyNotice, ← hsize, List.take_length, hread]

/-- A request for the information on a device. -/
def infoRequest : Package := .request {
  destination := .device ⟨0x05E0, 0x10⟩, source := ⟨0x7FF0, 1⟩, transaction := 7, port := 1, messageCount := 0,
  subDevice := 0, commandClass := .get, parameterId := 0x0060, data := .ofList [] }

/-- The request is read in three chunks, one of which is empty, and the answer of a device in two that meet inside its
preamble. -/
theorem delivery_of_frames_infoRequest :
    let b := new .controller .standard
    let first := [(infoRequest.frame.take 2, 10), ([], 20), (infoRequest.frame.drop 2, 30)]
    let start := b.handle .break 0
    let request := start.2.receiveAll first
    let answer := Discovery.replyFrame ⟨0x05E0, 0x10⟩ 3
    let second := [(answer.take 2, 50), (answer.drop 2, 60)]
    let reply := (b.handle .receiveRequested 40).2.receiveAll second
    notices (start.1 ++ request.1) = [⟨.ok, .receive, .package, 26, none⟩] ∧
      Package.ofFrame? (request.2.frame.take 26) = .ok infoRequest ∧
      notices reply.1 = [⟨.ok, .receive, .discoveryReply, 20, none⟩] ∧
      Discovery.uidOfReply? (reply.2.frame.take 20) = .ok ⟨0x05E0, 0x10⟩ := by
  intro b
  have hnew : b.Reachable := .new .controller .standard
  have hidle : (b.handle .receiveRequested 40).2.rx = .idle := rfl
  clear_value b
  intro first start request answer second reply
  have hproper : infoRequest.Proper := ⟨by decide, by decide⟩
  have hfirst : slotsOf first = infoRequest.frame := by decide +kernel
  have hsecond : slotsOf second = answer := by decide +kernel
  have hsize : infoRequest.frame.length = 26 := by decide +kernel
  have hsizeReply : answer.length = 20 := Discovery.length_replyFrame _ _
  obtain ⟨htold, hpackage⟩ := delivery_of_frames.1 infoRequest hproper b hnew 0 first hfirst
  obtain ⟨htoldReply, huid⟩ := delivery_of_frames.2 ⟨0x05E0, 0x10⟩ 3 (by decide) _ (hnew.handle .receiveRequested 40)
    hidle
    second hsecond
  rw [hsize] at htold hpackage
  rw [hsizeReply] at htoldReply huid
  exact ⟨htold, hpackage, htoldReply, huid⟩

end Bus

end LightBus
