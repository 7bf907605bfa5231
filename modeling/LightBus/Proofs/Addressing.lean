import LightBus.Address

/-!
# Words, identifiers and addresses as bytes

Integers, identifiers and addresses have one form in bytes.

* (bytes to value and back) `word_wordOf`, `dword_dwordOf`, `Uid.bytes_ofBytes`, `Address.bytes_ofBytes`.
* (value to bytes and back) the bytes of a value are `[b₀, …]`, and reading `b₀, …` gives the value again:
  `exists_word`, `Uid.exists_bytes`, `Address.exists_bytes`.  An address has to be `Proper` for this: the
  manufacturer broadcast to `0xFFFF` and a device number of all ones are read as other addresses.
* (value as a number) `Uid.ofValue_value` and its converse pass between an identifier and its 48 bit value.
* (reverses) `Uid.swapBytes_eq_some_iff`: an identifier has a reverse if its bytes in reverse order are those of one
  that a device may have.
-/

namespace LightBus

/-! ### Integers -/

@[simp] theorem word_wordOf (hi lo : UInt8) : word (wordOf hi lo) = [hi, lo] := by
  have h1 := hi.toNat_lt
  have h2 := lo.toNat_lt
  simp only [word, wordOf, UInt16.toNat_ofNat', List.cons.injEq, and_true]
  constructor <;> apply UInt8.toNat_inj.1 <;> simp only [UInt8.toNat_ofNat'] <;> omega

@[simp] theorem dword_dwordOf (b3 b2 b1 b0 : UInt8) : dword (dwordOf b3 b2 b1 b0) = [b3, b2, b1, b0] := by
  have h3 := b3.toNat_lt
  have h2 := b2.toNat_lt
  have h1 := b1.toNat_lt
  have h0 := b0.toNat_lt
  simp only [dword, dwordOf, UInt32.toNat_ofNat', List.cons.injEq, and_true]
  refine ⟨?_, ?_, ?_, ?_⟩ <;> apply UInt8.toNat_inj.1 <;> simp only [UInt8.toNat_ofNat'] <;> omega

/-- The two bytes of a word are read as the word. -/
theorem exists_word (w : UInt16) : ∃ hi lo, word w = [hi, lo] ∧ wordOf hi lo = w := by
  refine ⟨_, _, rfl, ?_⟩
  have h := w.toNat_lt
  apply UInt16.toNat_inj.1
  simp only [wordOf, UInt16.toNat_ofNat', UInt8.toNat_ofNat']
  omega

/-- The four bytes of a double word are read as the double word. -/
theorem exists_dword (d : UInt32) : ∃ b3 b2 b1 b0, dword d = [b3, b2, b1, b0] ∧ dwordOf b3 b2 b1 b0 = d := by
  refine ⟨_, _, _, _, rfl, ?_⟩
  have h := d.toNat_lt
  apply UInt32.toNat_inj.1
  simp only [dwordOf, UInt32.toNat_ofNat', UInt8.toNat_ofNat']
  omega

/-! ### Identifiers -/

namespace Uid

@[simp] theorem bytes_ofBytes (b0 b1 b2 b3 b4 b5 : UInt8) :
    (ofBytes b0 b1 b2 b3 b4 b5).bytes = [b0, b1, b2, b3, b4, b5] := by
  simp [bytes, ofBytes]

/-- The six bytes of an identifier are read as the identifier. -/
theorem exists_bytes (uid : Uid) : ∃ b0 b1 b2 b3 b4 b5,
    uid.bytes = [b0, b1, b2, b3, b4, b5] ∧ ofBytes b0 b1 b2 b3 b4 b5 = uid := by
  obtain ⟨b0, b1, hm, hm'⟩ := exists_word uid.manufacturer
  obtain ⟨b2, b3, b4, b5, hd, hd'⟩ := exists_dword uid.device
  refine ⟨b0, b1, b2, b3, b4, b5, ?_, ?_⟩
  · rw [bytes, hm, hd]; rfl
  · rw [ofBytes, hm', hd']

@[simp] theorem ofValue_value (uid : Uid) : ofValue uid.value = uid := by
  obtain ⟨m, d⟩ := uid
  have h1 := m.toNat_lt
  have h2 := d.toNat_lt
  simp only [ofValue, value, mk.injEq]
  constructor
  · apply UInt16.toNat_inj.1
    simp only [UInt16.toNat_ofNat']
    omega
  · apply UInt32.toNat_inj.1
    simp only [UInt32.toNat_ofNat']
    omega

private theorem value_ofValue {v : Nat} (h : v ≤ maxUidValue) : (ofValue v).value = v := by
  rw [maxUidValue] at h
  simp only [value, ofValue, UInt16.toNat_ofNat', UInt32.toNat_ofNat']
  omega

theorem value_inj {u v : Uid} : u.value = v.value ↔ u = v := by
  constructor
  · intro h
    rw [← ofValue_value u, h, ofValue_value]
  · rintro rfl; rfl

/-- The highest value of the address space has the manufacturer's number that is kept for broadcasts. -/
theorem Valid.value_lt {uid : Uid} (h : uid.Valid) : uid.value < maxUidValue := by
  obtain ⟨m, d⟩ := uid
  have h1 := m.toNat_lt
  have h2 := d.toNat_lt
  have hm : m.toNat ≠ 0xFFFF := fun e => h.1 (UInt16.toNat_inj.1 e)
  simp only [value, maxUidValue]
  omega

theorem Valid.value_le {uid : Uid} (h : uid.Valid) : uid.value ≤ maxUidValue := Nat.le_of_lt h.value_lt

/-- A valid identifier is the one with its value. -/
theorem Valid.ofValue?_value {uid : Uid} (h : uid.Valid) : ofValue? uid.value = .ok uid := by
  have hle := h.value_le
  rw [ofValue?, if_neg (by omega), ofValue_value, make?]
  exact if_pos h

/-- Only an identifier with the value is returned. -/
theorem value_of_ofValue?_eq_ok {v : Nat} {uid : Uid} (h : ofValue? v = .ok uid) : uid.value = v := by
  unfold ofValue? at h
  split at h
  · cases h
  · rename_i hv
    simp only [make?] at h
    split at h
    · obtain rfl := Except.ok.inj h
      exact value_ofValue (Nat.le_of_not_lt hv)
    · cases h

theorem valid_of_ofValue?_eq_ok {v : Nat} {uid : Uid} (h : ofValue? v = .ok uid) : uid.Valid := by
  unfold ofValue? at h
  split at h
  · cases h
  · simp only [make?] at h
    split at h
    · rename_i hvalid
      obtain rfl := Except.ok.inj h
      exact hvalid
    · cases h

/-! ### Reverses -/

theorem bytes_inj {a b : Uid} (h : a.bytes = b.bytes) : a = b := by
  obtain ⟨a0, a1, a2, a3, a4, a5, ha, rfl⟩ := a.exists_bytes
  obtain ⟨b0, b1, b2, b3, b4, b5, hb, rfl⟩ := b.exists_bytes
  rw [ha, hb] at h
  cases h
  rfl

theorem swapBytes_eq_some_iff {uid reverse : Uid} :
    uid.swapBytes = some reverse ↔ reverse.Valid ∧ reverse.bytes = uid.bytes.reverse := by
  obtain ⟨b0, b1, b2, b3, b4, b5, hbytes, -⟩ := uid.exists_bytes
  have hswap : uid.swapBytes = (ofValue? (ofBytes b5 b4 b3 b2 b1 b0).value).toOption := by
    rw [swapBytes, hbytes]
    rfl
  have hreverse : uid.bytes.reverse = (ofBytes b5 b4 b3 b2 b1 b0).bytes := by
    rw [hbytes, bytes_ofBytes]
    rfl
  rw [hswap, hreverse]
  constructor
  · intro h
    cases hvalue : ofValue? (ofBytes b5 b4 b3 b2 b1 b0).value with
    | error e =>
      rw [hvalue] at h
      cases h
    | ok swapped =>
      rw [hvalue] at h
      obtain rfl := Option.some.inj h
      have hsame : swapped = ofBytes b5 b4 b3 b2 b1 b0 := value_inj.1 (value_of_ofValue?_eq_ok hvalue)
      exact ⟨valid_of_ofValue?_eq_ok hvalue, congrArg bytes hsame⟩
  · rintro ⟨hvalid, h⟩
    rw [← bytes_inj h, hvalid.ofValue?_value]
    rfl

private theorem bytes_of_swapBytes {a b : Uid} (h : a.swapBytes = some b) : b.bytes = a.bytes.reverse :=
  (swapBytes_eq_some_iff.1 h).2

/-- Only one identifier has the given reverse. -/
theorem swapBytes_inj {a b uid : Uid} (ha : a.swapBytes = some uid) (hb : b.swapBytes = some uid) : a = b := by
  apply bytes_inj
  rw [← List.reverse_inj, ← bytes_of_swapBytes ha, ← bytes_of_swapBytes hb]

end Uid

/-- The six bytes of a value that a device can have are read as an identifier with the value. -/
theorem bytes_sixBytes {v : Nat} (h : v ≤ maxUidValue) : ∃ b0 b1 b2 b3 b4 b5,
    sixBytes v = [b0, b1, b2, b3, b4, b5] ∧ (Uid.ofBytes b0 b1 b2 b3 b4 b5).value = v := by
  obtain ⟨b0, b1, b2, b3, b4, b5, hb, hb'⟩ := (Uid.ofValue v).exists_bytes
  exact ⟨b0, b1, b2, b3, b4, b5, hb, by rw [hb', Uid.value_ofValue h]⟩

/-! ### Addresses -/

namespace Address

/-- An address that is told from its bytes: the manufacturer's number `0xFFFF` and the device number of all ones
belong to the address of everybody. -/
def Proper : Address → Prop
  | broadcast => True
  | manufacturer number => number ≠ 0xFFFF
  | device uid => uid.device ≠ 0xFFFFFFFF

instance : DecidablePred Proper := fun address => by cases address <;> unfold Proper <;> infer_instance

@[simp] theorem uid_ofUid (uid : Uid) : (ofUid uid).uid = uid := by
  obtain ⟨m, d⟩ := uid
  simp only [ofUid]
  split
  · split
    · subst_vars; rfl
    · subst_vars; rfl
  · rfl

theorem proper_ofUid (uid : Uid) : (ofUid uid).Proper := by
  simp only [ofUid]
  split
  · split
    · trivial
    · assumption
  · assumption

private theorem Proper.ofUid_uid {address : Address} (h : address.Proper) : ofUid address.uid = address := by
  cases address with
  | broadcast => rfl
  | manufacturer number =>
    have h : number ≠ 0xFFFF := h
    simp [ofUid, uid, h]
  | device id =>
    have h : id.device ≠ 0xFFFFFFFF := h
    simp [ofUid, uid, h]

@[simp] theorem bytes_ofBytes (b0 b1 b2 b3 b4 b5 : UInt8) :
    (ofBytes b0 b1 b2 b3 b4 b5).bytes = [b0, b1, b2, b3, b4, b5] := by
  rw [ofBytes, bytes, uid_ofUid, Uid.bytes_ofBytes]

/-- A device number of all ones is the only one that is not read as a device. -/
theorem ofBytes_eq_device_iff {b0 b1 b2 b3 b4 b5 : UInt8} {uid : Uid} :
    ofBytes b0 b1 b2 b3 b4 b5 = .device uid ↔
      Uid.ofBytes b0 b1 b2 b3 b4 b5 = uid ∧ uid.device ≠ 0xFFFFFFFF := by
  simp only [ofBytes, ofUid]
  constructor
  · intro h
    split at h
    · split at h <;> cases h
    · rename_i hne
      obtain rfl := device.inj h
      exact ⟨rfl, hne⟩
  · rintro ⟨rfl, hne⟩
    rw [if_neg hne]

/-- The six bytes of a proper address are read as the address. -/
theorem Proper.exists_bytes {address : Address} (h : address.Proper) : ∃ b0 b1 b2 b3 b4 b5,
    address.bytes = [b0, b1, b2, b3, b4, b5] ∧ ofBytes b0 b1 b2 b3 b4 b5 = address := by
  obtain ⟨b0, b1, b2, b3, b4, b5, hb, hb'⟩ := address.uid.exists_bytes
  exact ⟨b0, b1, b2, b3, b4, b5, hb, by rw [ofBytes, hb', h.ofUid_uid]⟩

end Address

end LightBus
