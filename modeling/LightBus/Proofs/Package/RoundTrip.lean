import LightBus.Package.Frame
import LightBus.Proofs.Addressing

/-!
# Packages and their frames

A package has one frame, and a frame is accepted exactly if it is the frame of a package (`ofFrame?_eq_ok_iff`).

* (checksum) `checksumValid_iff`: a valid frame is its content followed by the checksum of the content.
* (codes) a class and its code determine each other, and so do a response type and its code.
* (fields) `Header.package?_eq_ok_iff`: header and parameter data determine the package.
* (bytes) `ofFrameUnchecked?_eq_ok_iff`: reading without a look at the checksum accepts the content of a package
  before any two bytes.
-/

namespace LightBus

/-! ### Checksum -/

theorem length_withChecksum (bytes : List UInt8) : (withChecksum bytes).length = bytes.length + 2 := by
  rw [withChecksum, List.length_append, length_word]

/-- A valid frame consists of a content and the checksum of the content. -/
theorem checksumValid_iff {frame : List UInt8} :
    checksumValid frame = true ↔ ∃ content, frame = withChecksum content := by
  constructor
  · intro h
    simp only [checksumValid, Bool.and_eq_true, decide_eq_true_eq, beq_iff_eq] at h
    refine ⟨frame.take (frame.length - 2), ?_⟩
    rw [withChecksum, ← h.2, List.take_append_drop]
  · rintro ⟨content, rfl⟩
    simp [checksumValid, withChecksum]

/-! ### Codes -/

namespace CommandClass

theorem ofRequestCode?_eq_some_iff {code : UInt8} {c : CommandClass} :
    ofRequestCode? code = some c ↔ c.requestCode = code := by
  constructor
  · intro h
    unfold ofRequestCode? at h
    split at h <;> cases h <;> rfl
  · rintro rfl
    cases c <;> rfl

theorem ofResponseCode?_eq_some_iff {code : UInt8} {c : CommandClass} :
    ofResponseCode? code = some c ↔ c.responseCode = code := by
  rw [ofResponseCode?, ofRequestCode?_eq_some_iff, responseCode]
  constructor
  · intro h; rw [h, UInt8.sub_add_cancel]
  · rintro rfl; rw [UInt8.add_sub_cancel]

/-- A response is never taken for a request. -/
theorem ofRequestCode?_responseCode (c : CommandClass) : ofRequestCode? c.responseCode = none := by
  cases c <;> rfl

end CommandClass

theorem ResponseType.ofCode?_eq_some_iff {code : UInt8} {t : ResponseType} :
    ofCode? code = some t ↔ t.code = code := by
  constructor
  · intro h
    unfold ofCode? at h
    split at h <;> cases h <;> rfl
  · rintro rfl
    cases t <;> rfl

/-! ### Fields -/

/-- Header and parameter data are those of one package at most. -/
theorem Header.package?_eq_ok_iff {h : Header} {data : Payload} {p : Package} :
    h.package? data = .ok p ↔ p.header = h ∧ p.data = data := by
  constructor
  · intro hp
    unfold package? at hp
    split at hp
    · rename_i c hc
      obtain rfl := Except.ok.inj hp
      rw [CommandClass.ofRequestCode?_eq_some_iff] at hc
      refine ⟨?_, rfl⟩
      simp only [Package.header, hc]
    · split at hp
      · cases hp
      · rename_i c hc
        split at hp
        · cases hp
        · rename_i t ht
          obtain rfl := Except.ok.inj hp
          rw [CommandClass.ofResponseCode?_eq_some_iff] at hc
          rw [ResponseType.ofCode?_eq_some_iff] at ht
          refine ⟨?_, rfl⟩
          simp only [Package.header, hc, ht]
  · rintro ⟨rfl, rfl⟩
    cases p with
    | request r =>
      simp only [package?, Package.header, CommandClass.ofRequestCode?_eq_some_iff.2 rfl, Package.data]
    | response r =>
      simp only [package?, Package.header, CommandClass.ofRequestCode?_responseCode,
        CommandClass.ofResponseCode?_eq_some_iff.2 rfl, ResponseType.ofCode?_eq_some_iff.2 rfl, Package.data]

/-! ### Bytes -/

namespace Header

/-- The addresses of the header are told from their bytes. -/
structure Proper (h : Header) : Prop where
  destination : h.destination.Proper
  source : h.source.device ≠ 0xFFFFFFFF

theorem length_content (h : Header) (data : Payload) :
    (h.content data).length = rdmHeaderSize + data.bytes.length := by
  simp only [content, Address.bytes, Uid.bytes, word, dword, List.length_append, List.length_cons,
    List.length_nil, rdmHeaderSize]

/-- Whatever follows the content, the header is read from it. -/
theorem ofFrame_content {h : Header} (hp : h.Proper) (data : Payload) (rest : List UInt8) :
    Frame.source (h.content data ++ rest) = .device h.source ∧ ofFrame (h.content data ++ rest) h.source = h := by
  obtain ⟨d0, d1, d2, d3, d4, d5, hd, hd'⟩ := hp.destination.exists_bytes
  obtain ⟨s0, s1, s2, s3, s4, s5, hs, hs'⟩ := h.source.exists_bytes
  obtain ⟨sub1, sub0, hb, hb'⟩ := exists_word h.subDevice
  obtain ⟨pid1, pid0, hi, hi'⟩ := exists_word h.parameterId
  have hc : h.content data ++ rest = rdmStart :: subMessageStart ::
      UInt8.ofNat (rdmHeaderSize + data.bytes.length) :: d0 :: d1 :: d2 :: d3 :: d4 :: d5 :: s0 :: s1 :: s2 ::
      s3 :: s4 :: s5 :: h.transaction :: h.portOrType :: h.messageCount :: sub1 :: sub0 :: h.classCode ::
      pid1 :: pid0 :: UInt8.ofNat data.bytes.length :: (data.bytes ++ rest) := by
    simp only [content, hd, hs, hb, hi, List.cons_append, List.nil_append]
  rw [hc]
  constructor
  · exact Address.ofBytes_eq_device_iff.2 ⟨hs', hp.source⟩
  · obtain ⟨_, _, _, _, _, _, _, _⟩ := h
    simp only [ofFrame, mk.injEq]
    exact ⟨hd', trivial, rfl, rfl, rfl, hb', rfl, hi'⟩

/-- The first 24 slots are what the header read from them writes. -/
private theorem content_ofFrame {frame : List UInt8} {source : Uid} (data : Payload)
    (hl : rdmHeaderSize ≤ frame.length) (hs : Frame.source frame = .device source) (h0 : frame.getD 0 0 = rdmStart)
    (h1 : frame.getD 1 0 = subMessageStart) (h2 : frame.getD 2 0 = UInt8.ofNat (rdmHeaderSize + data.bytes.length))
    (h23 : frame.getD 23 0 = UInt8.ofNat data.bytes.length) :
    (ofFrame frame source).content data = frame.take rdmHeaderSize ++ data.bytes := by
  have htake : frame.take rdmHeaderSize = (List.range rdmHeaderSize).map fun i => frame.getD i 0 := by
    apply List.ext_getElem
    · simp; omega
    · intro i hi hi'
      simp only [List.length_take] at hi
      simp [List.getD_eq_getElem?_getD, List.getElem?_eq_getElem (show i < frame.length by omega)]
  obtain ⟨hsource, -⟩ := Address.ofBytes_eq_device_iff.1 hs
  simp only [content, ofFrame, ← hsource, Frame.destination, Frame.address, Frame.classCode, Frame.parameterId,
    Address.bytes_ofBytes, Uid.bytes_ofBytes, word_wordOf, htake, ← h0, ← h1, ← h2, ← h23]
  rfl

private theorem proper_ofFrame {frame : List UInt8} {source : Uid} (hs : Frame.source frame = .device source) :
    (ofFrame frame source).Proper :=
  ⟨Address.proper_ofUid _, (Address.ofBytes_eq_device_iff.1 hs).2⟩

end Header

namespace Package

/-- The addresses of the package are told from their bytes. -/
def Proper (p : Package) : Prop := p.header.Proper

/-- Frames have 26 to 257 bytes. -/
theorem length_frame (p : Package) : p.frame.length = minPackageSize + p.data.bytes.length := by
  rw [frame, length_withChecksum, Header.length_content, minPackageSize, rdmHeaderSize]
  omega

theorem checkSize_eq_ok_iff {frame : List UInt8} :
    checkSize frame = .ok () ↔ minPackageSize ≤ frame.length ∧ frame.length ≤ maxPackageSize := by
  unfold checkSize
  split
  · simp; omega
  · split
    · simp; omega
    · simp; omega

private theorem guard_eq_ok_iff {ε α : Type} {c : Prop} [Decidable c] {e : ε} {r : Except ε α} {x : α} :
    (if c then throw e else r) = .ok x ↔ ¬c ∧ r = .ok x := by
  by_cases h : c
  · simp only [h, ↓reduceIte, not_true, false_and, iff_false]
    intro he; cases he
  · simp only [h, ↓reduceIte, not_false_iff, true_and]

private theorem ofFrameUnchecked?_eq_ok {frame : List UInt8} {p : Package} :
    ofFrameUnchecked? frame = .ok p ↔ checkSize frame = .ok () ∧
      (frame.getD 0 0 = rdmStart ∧ frame.getD 1 0 = subMessageStart) ∧
      ((frame.getD 2 0).toNat + 2 = frame.length ∧
        (frame.getD 23 0).toNat + rdmHeaderSize = (frame.getD 2 0).toNat) ∧
      ∃ source, Frame.source frame = .device source ∧ (Header.ofFrame frame source).package?
        (.ofList (slice frame rdmHeaderSize (frame.getD 23 0).toNat)) = .ok p := by
  unfold ofFrameUnchecked?
  cases checkSize frame with
  | error e =>
    constructor
    · intro h; cases h
    · rintro ⟨h, -⟩; cases h
  | ok _ =>
    simp only [bind, Except.bind, guard_eq_ok_iff, not_or, ne_eq, Decidable.not_not, true_and]
    cases hs : Frame.source frame with
    | broadcast =>
      constructor
      · rintro ⟨-, -, h⟩; cases h
      · rintro ⟨-, -, _, h, -⟩; cases h
    | manufacturer number =>
      constructor
      · rintro ⟨-, -, h⟩; cases h
      · rintro ⟨-, -, _, h, -⟩; cases h
    | device source =>
      simp only [Address.device.injEq, exists_eq_left']

/-- Without a look at the checksum, a package is read from its content before any two bytes, and from nothing
else. -/
theorem ofFrameUnchecked?_eq_ok_iff {frame : List UInt8} {p : Package} :
    ofFrameUnchecked? frame = .ok p ↔
      p.Proper ∧ ∃ trailer, trailer.length = 2 ∧ frame = p.header.content p.data ++ trailer := by
  rw [ofFrameUnchecked?_eq_ok]
  constructor
  · rintro ⟨hsize, ⟨h0, h1⟩, ⟨hlength, hdata⟩, source, hs, hp⟩
    rw [checkSize_eq_ok_iff, minPackageSize, maxPackageSize] at hsize
    rw [rdmHeaderSize] at hdata
    rw [Header.package?_eq_ok_iff] at hp
    obtain ⟨hheader, hpdata⟩ := hp
    have hslice : p.data.bytes = slice frame rdmHeaderSize (frame.getD 23 0).toNat := by
      rw [hpdata, Payload.bytes_ofList]
      rw [slice, List.length_take, maxPayloadSize]; omega
    have hlen : p.data.bytes.length = (frame.getD 23 0).toNat := by
      rw [hslice, slice, List.length_take, List.length_drop, rdmHeaderSize]; omega
    have hproper := Header.proper_ofFrame hs
    have hcontent := Header.content_ofFrame p.data (by rw [rdmHeaderSize]; omega) hs h0 h1
      (by rw [hlen, rdmHeaderSize, Nat.add_comm, hdata, UInt8.ofNat_toNat]) (by rw [hlen, UInt8.ofNat_toNat])
    refine ⟨by rw [Proper, hheader]; exact Header.proper_ofFrame hs, frame.drop (frame.length - 2), ?_, ?_⟩
    · rw [List.length_drop]; omega
    · have hlast : frame.length - 2 = rdmHeaderSize + (frame.getD 23 0).toNat := by rw [rdmHeaderSize]; omega
      rw [hheader, hcontent, hslice, slice, hlast, ← List.drop_drop, List.append_assoc, List.take_append_drop,
        List.take_append_drop]
  · rintro ⟨hp, trailer, ht, rfl⟩
    obtain ⟨hsource, hheader⟩ := Header.ofFrame_content hp p.data trailer
    have hle := p.data.length_le
    rw [maxPayloadSize] at hle
    have hlength : (p.header.content p.data ++ trailer).length = 26 + p.data.bytes.length := by
      rw [List.length_append, Header.length_content, ht, rdmHeaderSize]; omega
    -- the two length slots
    have h2 : ((p.header.content p.data ++ trailer).getD 2 0).toNat = 24 + p.data.bytes.length := by
      show (UInt8.ofNat (24 + p.data.bytes.length)).toNat = _
      rw [UInt8.toNat_ofNat']; omega
    have h23 : ((p.header.content p.data ++ trailer).getD 23 0).toNat = p.data.bytes.length := by
      show (UInt8.ofNat p.data.bytes.length).toNat = _
      rw [UInt8.toNat_ofNat']; omega
    have hdrop : (p.header.content p.data ++ trailer).drop 24 = p.data.bytes ++ trailer := rfl
    refine ⟨?_, ⟨rfl, rfl⟩, ⟨by omega, by rw [rdmHeaderSize]; omega⟩, p.header.source, hsource, ?_⟩
    · rw [checkSize_eq_ok_iff, hlength, minPackageSize, maxPackageSize]; omega
    · rw [hheader, slice, rdmHeaderSize, hdrop, h23, List.take_left, Payload.ofList_bytes]
      exact Header.package?_eq_ok_iff.2 ⟨rfl, rfl⟩

/-- A package that is read from a frame with the right checksum has no other frame. -/
theorem frame_of_read {frame : List UInt8} {p : Package} (h : ofFrameUnchecked? frame = .ok p)
    (hvalid : checksumValid frame = true) : p.Proper ∧ p.frame = frame := by
  obtain ⟨hproper, trailer, htrailer, hcontent⟩ := ofFrameUnchecked?_eq_ok_iff.1 h
  obtain ⟨content, rfl⟩ := checksumValid_iff.1 hvalid
  obtain ⟨rfl, -⟩ := List.append_inj' hcontent (by rw [htrailer]; rfl)
  exact ⟨hproper, rfl⟩

/-- A frame is accepted exactly if it is the frame of the package that is read from it. -/
theorem ofFrame?_eq_ok_iff {frame : List UInt8} {p : Package} :
    ofFrame? frame = .ok p ↔ p.Proper ∧ p.frame = frame := by
  have hdef : ofFrame? frame = .ok p ↔ checkSize frame = .ok () ∧ checksumValid frame = true ∧
      ofFrameUnchecked? frame = .ok p := by
    unfold ofFrame?
    cases checkSize frame with
    | error e =>
      constructor
      · intro h; cases h
      · rintro ⟨h, -⟩; cases h
    | ok _ =>
      cases checksumValid frame with
      | false =>
        constructor
        · intro h; cases h
        · rintro ⟨-, h, -⟩; cases h
      | true => simp only [bind, Except.bind, ↓reduceIte, true_and]
  rw [hdef]
  constructor
  · rintro ⟨-, hvalid, hread⟩
    exact frame_of_read hread hvalid
  · rintro ⟨hp, rfl⟩
    have hlength := p.length_frame
    have hle := p.data.length_le
    rw [maxPayloadSize] at hle
    refine ⟨?_, checksumValid_iff.2 ⟨_, rfl⟩, ofFrameUnchecked?_eq_ok_iff.2 ⟨hp, _, rfl, rfl⟩⟩
    rw [checkSize_eq_ok_iff, hlength, minPackageSize, maxPackageSize]; omega

/-- Writing and reading are inverse to each other: a proper package is read from its frame, an accepted frame is
that of the package read from it, and so the accepted frames are the frames of the proper packages. -/
theorem frame_bijection :
    (∀ p : Package, p.Proper → ofFrame? p.frame = .ok p) ∧
    (∀ (frame : List UInt8) (p : Package), ofFrame? frame = .ok p → p.frame = frame) ∧
    ∀ frame : List UInt8, (∃ p, ofFrame? frame = .ok p) ↔ ∃ p : Package, p.Proper ∧ p.frame = frame := by
  refine ⟨fun p hp => ofFrame?_eq_ok_iff.2 ⟨hp, rfl⟩, fun frame p h => (ofFrame?_eq_ok_iff.1 h).2, fun frame => ?_⟩
  simp only [ofFrame?_eq_ok_iff]

/-- The refusal of a SET request, which is read from its 28 bytes. -/
theorem frame_bijection_refusal :
    let p : Package := .response {
      destination := .device ⟨0x7FF0, 1⟩, source := ⟨0x05E0, 0x10⟩, transaction := 7, responseType := .nack,
      messageCount := 2, subDevice := 0x0102, commandClass := .set, parameterId := 0x00F0, data := .ofList [0, 6] }
    p.Proper ∧ p.frame = [0xCC, 1, 26, 0x7F, 0xF0, 0, 0, 0, 1, 0x05, 0xE0, 0, 0, 0, 0x10, 7, 2, 2, 1, 2,
      0x31, 0, 0xF0, 2, 0, 6, 0x04, 0x83] ∧ ofFrame? p.frame = .ok p := by
  refine ⟨⟨by decide, by decide⟩, by decide, frame_bijection.1 _ ⟨by decide, by decide⟩⟩

end Package

end LightBus
