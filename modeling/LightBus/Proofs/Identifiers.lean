import LightBus.Proofs.Addressing

/-!
# One identifier, many forms

Six bytes, the number that they make, two halves, and an address: whichever of the forms an identifier comes in, the
others are the same (`Uid.forms_agree`).

* (bytes and numbers) `Uid.value_ofBytes`: the first byte counts most.
* (broadcasts) `Uid.exists_ofValue?_iff`: every number of 48 bits is an address, and all of them that are not kept for
  broadcasts in either half are identifiers.
* (order) `Uid.compare_value`: manufacturers are compared first, as they are the higher digit of the number.
* (reverses) `Uid.swapBytes_eq_some_iff`: what has a reverse is the reverse of it.
-/

namespace LightBus

/-- The number with the given bytes, most significant first. -/
def numberOf (bytes : List UInt8) : Nat := bytes.foldl (fun number b => number * 256 + b.toNat) 0

theorem numberOf_byte (b : UInt8) : numberOf [b] = b.toNat := by simp [numberOf]

theorem numberOf_word (w : UInt16) : numberOf (word w) = w.toNat := by
  have h := w.toNat_lt
  simp only [numberOf, word, List.foldl_cons, List.foldl_nil, UInt8.toNat_ofNat']
  omega

theorem numberOf_dword (d : UInt32) : numberOf (dword d) = d.toNat := by
  have h := d.toNat_lt
  simp only [numberOf, dword, List.foldl_cons, List.foldl_nil, UInt8.toNat_ofNat']
  omega

/-- Numbers of two digits are compared by the first digit, and by the second where the first is the same. -/
private theorem compare_digits {base : Nat} (high high' : Nat) {low low' : Nat} (hlow : low < base)
    (hlow' : low' < base) :
    (compare high high').then (compare low low') = compare (high * base + low) (high' * base + low') := by
  rcases Nat.lt_trichotomy high high' with h | rfl | h
  · have hnext : (high + 1) * base ≤ high' * base := Nat.mul_le_mul_right base h
    rw [Nat.succ_mul] at hnext
    rw [Nat.compare_eq_lt.2 h, Nat.compare_eq_lt.2 (by omega : high * base + low < high' * base + low')]
    rfl
  · rw [Nat.compare_eq_eq.2 rfl, Ordering.eq_then]
    simp only [compare, compareOfLessAndEq, Nat.add_lt_add_iff_left, Nat.add_left_cancel_iff]
  · have hnext : (high' + 1) * base ≤ high * base := Nat.mul_le_mul_right base h
    rw [Nat.succ_mul] at hnext
    rw [Nat.compare_eq_gt.2 h, Nat.compare_eq_gt.2 (by omega : high' * base + low' < high * base + low)]
    rfl

private theorem Address.value_ofUid (uid : Uid) : (ofUid uid).value = uid.value := by
  rw [value, uid_ofUid]

namespace Uid

theorem value_ofBytes (b0 b1 b2 b3 b4 b5 : UInt8) :
    (ofBytes b0 b1 b2 b3 b4 b5).value = numberOf [b0, b1, b2, b3, b4, b5] := by
  have h0 := b0.toNat_lt
  have h1 := b1.toNat_lt
  have h2 := b2.toNat_lt
  have h3 := b3.toNat_lt
  have h4 := b4.toNat_lt
  have h5 := b5.toNat_lt
  simp only [value, ofBytes, wordOf, dwordOf, UInt16.toNat_ofNat', UInt32.toNat_ofNat', numberOf, List.foldl_cons,
    List.foldl_nil]
  omega

private theorem value_le_broadcastValue (uid : Uid) : uid.value ≤ broadcastValue := by
  have hm := uid.manufacturer.toNat_lt
  have hd := uid.device.toNat_lt
  simp only [value, broadcastValue]
  omega

/-- The halves of a number of 48 bits are those of an identifier unless one of them is kept for broadcasts. -/
theorem exists_ofValue?_iff {v : Nat} :
    (∃ uid, ofValue? v = .ok uid) ↔ v ≤ 0xFFFFFFFFFFFF ∧ v / 0x100000000 ≠ 0xFFFF ∧ v % 0x100000000 ≠ 0xFFFFFFFF := by
  constructor
  · rintro ⟨uid, h⟩
    obtain ⟨hm, hd⟩ := valid_of_ofValue?_eq_ok h
    rw [← value_of_ofValue?_eq_ok h, value]
    have hm16 := uid.manufacturer.toNat_lt
    have hd32 := uid.device.toNat_lt
    have hm' : uid.manufacturer.toNat ≠ 0xFFFF := fun e => hm (UInt16.toNat_inj.1 e)
    have hd' : uid.device.toNat ≠ 0xFFFFFFFF := fun e => hd (UInt32.toNat_inj.1 e)
    omega
  · rintro ⟨hle, hm, hd⟩
    have hvalid : (ofValue v).Valid := by
      constructor
      · intro e
        have e' := congrArg UInt16.toNat e
        simp only [ofValue, UInt16.toNat_ofNat', UInt16.reduceToNat] at e'
        omega
      · intro e
        have e' := congrArg UInt32.toNat e
        simp only [ofValue, UInt32.toNat_ofNat', UInt32.reduceToNat] at e'
        omega
    refine ⟨ofValue v, ?_⟩
    rw [ofValue?, if_neg (by rw [maxUidValue]; omega), make?]
    exact if_pos hvalid

theorem compare_value (u v : Uid) : compare u v = compare u.value v.value := by
  have hm : compare u.manufacturer v.manufacturer = compare u.manufacturer.toNat v.manufacturer.toNat := by
    simp only [compare, compareOfLessAndEq, UInt16.lt_iff_toNat_lt, UInt16.toNat_inj]
  have hd : compare u.device v.device = compare u.device.toNat v.device.toNat := by
    simp only [compare, compareOfLessAndEq, UInt32.lt_iff_toNat_lt, UInt32.toNat_inj]
  calc compare u v = (compare u.manufacturer v.manufacturer).then (compare u.device v.device) := rfl
    _ = (compare u.manufacturer.toNat v.manufacturer.toNat).then (compare u.device.toNat v.device.toNat) := by
      rw [hm, hd]
    _ = compare u.value v.value := compare_digits _ _ u.device.toNat_lt v.device.toNat_lt

/-- Six bytes are read as the address that their number is, and it has these bytes and this number; they are read as
an identifier unless one half is kept for broadcasts, and no number of more than 48 bits is read as either.
Identifiers are in the order of their numbers, and an identifier whose bytes can be turned around is the reverse of
its reverse. -/
theorem forms_agree :
    (∀ b0 b1 b2 b3 b4 b5 : UInt8,
      Address.ofValue? (numberOf [b0, b1, b2, b3, b4, b5]) = .ok (.ofBytes b0 b1 b2 b3 b4 b5) ∧
      (Address.ofBytes b0 b1 b2 b3 b4 b5).bytes = [b0, b1, b2, b3, b4, b5] ∧
      (Address.ofBytes b0 b1 b2 b3 b4 b5).value = numberOf [b0, b1, b2, b3, b4, b5] ∧
      ∀ uid, ofValue? (numberOf [b0, b1, b2, b3, b4, b5]) = .ok uid →
        uid.bytes = [b0, b1, b2, b3, b4, b5] ∧ uid.value = numberOf [b0, b1, b2, b3, b4, b5]) ∧
    (∀ v, Address.ofValue? v = .error .malformed ↔ 0xFFFFFFFFFFFF < v) ∧
    (∀ v, (∃ uid, ofValue? v = .ok uid) ↔ v ≤ 0xFFFFFFFFFFFF ∧ v / 0x100000000 ≠ 0xFFFF ∧
      v % 0x100000000 ≠ 0xFFFFFFFF) ∧
    (∀ u v : Uid, compare u v = compare u.value v.value) ∧
    ∀ uid : Uid, uid.Valid →
      (∀ reverse, uid.swapBytes = some reverse ↔ reverse.Valid ∧ reverse.bytes = uid.bytes.reverse) ∧
      ∀ reverse, uid.swapBytes = some reverse → reverse.swapBytes = some uid := by
  refine ⟨fun b0 b1 b2 b3 b4 b5 => ⟨?_, Address.bytes_ofBytes .., ?_, fun uid h => ?_⟩, fun v => ?_,
    fun v => exists_ofValue?_iff, compare_value,
    fun uid hvalid => ⟨fun reverse => swapBytes_eq_some_iff, fun reverse h => ?_⟩⟩
  · rw [← value_ofBytes, Address.ofValue?, if_neg (Nat.not_lt.2 (value_le_broadcastValue _)), ofValue_value]
    rfl
  · rw [← value_ofBytes]
    exact Address.value_ofUid _
  · have hvalue := value_of_ofValue?_eq_ok h
    rw [← value_ofBytes] at hvalue
    rw [value_inj.1 hvalue]
    exact ⟨bytes_ofBytes .., value_ofBytes ..⟩
  · rw [Address.ofValue?, broadcastValue]
    split
    · exact iff_of_true rfl ‹_›
    · exact iff_of_false (fun h => nomatch h) ‹_›
  · obtain ⟨-, hbytes⟩ := swapBytes_eq_some_iff.1 h
    refine swapBytes_eq_some_iff.2 ⟨hvalid, ?_⟩
    rw [hbytes, List.reverse_reverse]

/-- A device of one manufacturer whose reverse is one of another. -/
theorem forms_agree_reversed :
    let uid : Uid := ⟨0x0102, 0x03040506⟩
    ofValue? (numberOf [1, 2, 3, 4, 5, 6]) = .ok uid ∧ uid.bytes = [1, 2, 3, 4, 5, 6] ∧ uid.value = 0x010203040506 ∧
      uid.Valid ∧ uid.swapBytes = some ⟨0x0605, 0x04030201⟩ ∧ (⟨0x0605, 0x04030201⟩ : Uid).swapBytes = some uid := by
  intro uid
  have hvalid : uid.Valid := by decide
  have hnumber : numberOf [1, 2, 3, 4, 5, 6] = uid.value := by decide
  have hread : ofValue? (numberOf [1, 2, 3, 4, 5, 6]) = .ok uid := hnumber ▸ hvalid.ofValue?_value
  have hbytes := (forms_agree.1 1 2 3 4 5 6).2.2.2 uid hread
  have hreverses := forms_agree.2.2.2.2 uid hvalid
  have hswap : uid.swapBytes = some ⟨0x0605, 0x04030201⟩ := (hreverses.1 _).2 (by decide)
  exact ⟨hread, hbytes.1, hbytes.2, hvalid, hswap, hreverses.2 _ hswap⟩

end Uid

end LightBus
