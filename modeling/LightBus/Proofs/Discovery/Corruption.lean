import LightBus.Proofs.Bus.Delivery
import LightBus.Proofs.Package.Corruption

/-!
# Answers to a branch probe that have changed on the way

The checksum is that of the coded slots, so that it tells every slot of the identifier that has changed, also where
the decoded byte is the same (`Discovery.uidOfReply?_set_identifier`).  The slots of the checksum are decoded before
they are compared, and a change may get lost there (`Discovery.uidOfReply?_set_checksum`).

One slot that has changed behind the separator never makes an answer the answer of another device
(`Discovery.refused_of_changed`).
-/

namespace LightBus.Discovery

variable {uid : Uid} {n : Nat}

/-- A slot of the coded identifier has changed. -/
theorem uidOfReply?_set_identifier (hn : n ≤ maxPreambleLength) {i : Nat} {x : UInt8}
    (hi : i < (spread uid.bytes).length) (hx : (spread uid.bytes)[i] ≠ x) (rest : List UInt8) :
    uidOfReply? (List.replicate n preambleByte ++ separatorByte :: (replyBody uid ++ rest).set i x) =
      .error .wrongChecksum := by
  have hlength : ((spread uid.bytes).set i x).length = 12 := List.length_set.trans (length_spread_bytes uid)
  have hbody : (replyBody uid ++ rest).set i x =
      (spread uid.bytes).set i x ++ (spread (word (checksum (spread uid.bytes))) ++ rest) := by
    rw [replyBody, List.append_assoc, List.set_append_left i x hi]
  rw [hbody]
  refine uidOfReply?_of_wrongChecksum hn ?_ ?_
  · rw [List.length_append, List.length_append, hlength, length_spread_word, discoveryBodySize]
    omega
  · rw [slice, List.drop_left' hlength, List.take_left' hlength, List.take_left' (length_spread_word _),
      gather_spread]
    exact fun hsame => checksum_set_ne hi hx (word_inj.1 hsame).symm

/-- A slot of the coded checksum has changed. -/
theorem uidOfReply?_set_checksum (huid : uid.device ≠ 0xFFFFFFFF) (hn : n ≤ maxPreambleLength) {i : Nat}
    (hi : (spread uid.bytes).length ≤ i) (x : UInt8) (rest : List UInt8) :
    let read := uidOfReply? (List.replicate n preambleByte ++ separatorByte :: (replyBody uid ++ rest).set i x)
    read = .ok uid ∨ read = .error .wrongChecksum := by
  have hbody : (replyBody uid ++ rest).set i x =
      spread uid.bytes ++ (spread (word (checksum (spread uid.bytes))) ++ rest).set (i - (spread uid.bytes).length)
        x := by
    rw [replyBody, List.append_assoc, List.set_append_right i x hi]
  rw [hbody, uidOfReply?_coded huid hn (by rw [List.length_set, List.length_append, length_spread_word]; omega)]
  dsimp only
  split
  · exact .inl rfl
  · exact .inr rfl

/-- The identifier of a device is read from its answer.  If one of the 16 slots behind the separator is replaced, the
answer is refused or the same identifier is read; it is refused for each other slot in the place of one of the
identifier. -/
theorem refused_of_changed (uid : Uid) (huid : uid.device ≠ 0xFFFFFFFF) (preamble : Nat) (rest : List UInt8) :
    let frame := replyFrame uid preamble ++ rest
    let separator := min preamble maxPreambleLength
    separatorIndex? frame = some separator ∧ uidOfReply? frame = .ok uid ∧
      ∀ i < discoveryBodySize, ∀ x,
        (uidOfReply? (frame.set (separator + 1 + i) x) = .ok uid ∨
          uidOfReply? (frame.set (separator + 1 + i) x) = .error .wrongChecksum) ∧
        (i < 12 → frame[separator + 1 + i]? ≠ some x → uidOfReply? (frame.set (separator + 1 + i) x) =
          .error .wrongChecksum) := by
  intro frame separator
  have hn : separator ≤ maxPreambleLength := Nat.min_le_right _ _
  have hframe : frame = List.replicate separator preambleByte ++ separatorByte :: (replyBody uid ++ rest) :=
    List.append_assoc ..
  have hindex (i : Nat) : separator + 1 + i - separator = i + 1 := by omega
  have hset (i : Nat) (x : UInt8) : frame.set (separator + 1 + i) x =
      List.replicate separator preambleByte ++ separatorByte :: (replyBody uid ++ rest).set i x := by
    rw [hframe, List.set_append_right _ _ (by rw [List.length_replicate]; omega), List.length_replicate, hindex,
      List.set_cons_succ]
  have hread : uidOfReply? frame = .ok uid := uidOfReply?_append huid preamble rest
  have hlength := length_spread_bytes uid
  have hslot {i : Nat} (hi : i < (spread uid.bytes).length) :
      frame[separator + 1 + i]? = some (spread uid.bytes)[i] := by
    rw [hframe, List.getElem?_append_right (by rw [List.length_replicate]; omega), List.length_replicate, hindex,
      List.getElem?_cons_succ, replyBody, List.append_assoc, List.getElem?_append_left hi,
      List.getElem?_eq_getElem hi]
  have hrefused (i : Nat) (x : UInt8) (hi : i < 12) (hx : frame[separator + 1 + i]? ≠ some x) :
      uidOfReply? (frame.set (separator + 1 + i) x) = .error .wrongChecksum := by
    have hinside : i < (spread uid.bytes).length := by omega
    rw [hset]
    refine uidOfReply?_set_identifier hn hinside (fun hsame => hx ?_) rest
    rw [hslot hinside, hsame]
  refine ⟨?_, hread, fun i _ x => ⟨?_, hrefused i x⟩⟩
  · rw [hframe]
    exact separatorIndex?_separator hn _
  · by_cases hi : i < 12
    · by_cases hx : frame[separator + 1 + i]? = some x
      · obtain ⟨hinside, rfl⟩ := List.getElem?_eq_some_iff.1 hx
        rw [List.set_getElem_self]
        exact .inl hread
      · exact .inr (hrefused i x hi hx)
    · rw [hset]
      exact uidOfReply?_set_checksum huid hn (by omega) x rest

/-- The last slot of the identifier has changed, from `0x75` to `0x35`.  That is found out although the byte that the
slot stands for is the same as before. -/
theorem refused_of_changed_slot : (⟨0x05E0, 0x1234⟩ : Uid).device ≠ 0xFFFFFFFF ∧
    (replyFrame ⟨0x05E0, 0x1234⟩ 9 ++ [0])[19]? ≠ some 0x35 ∧
    uidOfReply? ((replyFrame ⟨0x05E0, 0x1234⟩ 9 ++ [0]).set 19 0x35) = .error .wrongChecksum := by
  have hdevice : (⟨0x05E0, 0x1234⟩ : Uid).device ≠ 0xFFFFFFFF := by decide
  have hslot : (replyFrame ⟨0x05E0, 0x1234⟩ 9 ++ [0])[19]? ≠ some 0x35 := by decide
  exact ⟨hdevice, hslot, ((refused_of_changed _ hdevice 9 [0]).2.2 11 (by decide) 0x35).2 (by decide) hslot⟩

/-- A slot of the checksum that has changed in a bit which its pair does not have. -/
example : (uidOfReply? ((replyFrame ⟨0x05E0, 0x1234⟩ 9).set 20 0x27)).toOption = some ⟨0x05E0, 0x1234⟩ := by decide

end LightBus.Discovery
