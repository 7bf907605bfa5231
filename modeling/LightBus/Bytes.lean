/-!
# Bytes on the line

Bytes are kept as `List UInt8`.

* Integers travel with their most significant byte first (`word`, `dword`, `sixBytes`).
* A buffer keeps its length when bytes are copied over a part of it (`overwrite`).
-/

namespace LightBus

/-! ### Big-endian integers -/

/-- The two bytes of a word, most significant first. -/
def word (w : UInt16) : List UInt8 :=
  [UInt8.ofNat (w.toNat / 256), UInt8.ofNat w.toNat]

/-- The four bytes of a double word, most significant first. -/
def dword (d : UInt32) : List UInt8 :=
  [UInt8.ofNat (d.toNat / 16777216), UInt8.ofNat (d.toNat / 65536), UInt8.ofNat (d.toNat / 256),
    UInt8.ofNat d.toNat]

/-- The word with the given bytes, most significant first. -/
def wordOf (hi lo : UInt8) : UInt16 :=
  UInt16.ofNat (hi.toNat * 256 + lo.toNat)

/-- The double word with the given bytes, most significant first. -/
def dwordOf (b3 b2 b1 b0 : UInt8) : UInt32 :=
  UInt32.ofNat (b3.toNat * 16777216 + b2.toNat * 65536 + b1.toNat * 256 + b0.toNat)

@[simp] theorem length_word (w : UInt16) : (word w).length = 2 := rfl

@[simp] theorem length_dword (d : UInt32) : (dword d).length = 4 := rfl

/-! ### Buffers -/

/-- The buffer with `bytes` copied over it from index `start` on; what does not fit is dropped. -/
def overwrite (buffer : List UInt8) (start : Nat) (bytes : List UInt8) : List UInt8 :=
  buffer.take start ++ (bytes.take (buffer.length - start) ++ buffer.drop (start + bytes.length))

/-- The part of the buffer that begins at `start` and has at most `size` bytes. -/
def slice (buffer : List UInt8) (start size : Nat) : List UInt8 :=
  (buffer.drop start).take size

@[simp] theorem length_overwrite (buffer : List UInt8) (start : Nat) (bytes : List UInt8) :
    (overwrite buffer start bytes).length = buffer.length := by
  simp only [overwrite, List.length_append, List.length_take, List.length_drop]
  omega

@[simp] theorem overwrite_nil (buffer : List UInt8) (start : Nat) : overwrite buffer start [] = buffer := by
  simp [overwrite]

/-- What lies in front of the copied bytes stays. -/
theorem take_overwrite_of_le {buffer bytes : List UInt8} {start size : Nat} (hs : size ≤ start)
    (hb : start ≤ buffer.length) : (overwrite buffer start bytes).take size = buffer.take size := by
  rw [overwrite, List.take_append_of_le_length (by rw [List.length_take]; omega), List.take_take, Nat.min_eq_left hs]

/-- Bytes that fit the buffer are found behind what lies in front of them. -/
theorem take_overwrite {buffer bytes : List UInt8} {start : Nat} (h : start + bytes.length ≤ buffer.length) :
    (overwrite buffer start bytes).take (start + bytes.length) = buffer.take start ++ bytes := by
  have hstart : (buffer.take start).length = start := by rw [List.length_take]; omega
  rw [overwrite, List.take_of_length_le (by omega : bytes.length ≤ buffer.length - start), ← List.append_assoc]
  exact List.take_left' (by rw [List.length_append, hstart])

/-- Copied bytes that a part of the buffer begins with are found there, in front of what is left of the part. -/
theorem slice_overwrite_of_le {buffer bytes : List UInt8} {start size : Nat} (hbytes : bytes.length ≤ size)
    (h : start + size ≤ buffer.length) :
    slice (overwrite buffer start bytes) start size = bytes ++ (slice buffer start size).drop bytes.length := by
  have hstart : (buffer.take start).length = start := by rw [List.length_take]; omega
  rw [slice, overwrite, List.take_of_length_le (by omega : bytes.length ≤ buffer.length - start),
    List.drop_left' hstart, List.take_append, List.take_of_length_le hbytes, slice, List.drop_take, List.drop_drop]

/-- The copied bytes themselves. -/
theorem slice_overwrite {buffer bytes : List UInt8} {start : Nat} (h : start + bytes.length ≤ buffer.length) :
    slice (overwrite buffer start bytes) start bytes.length = bytes := by
  have hrest : (slice buffer start bytes.length).length ≤ bytes.length := List.length_take_le ..
  rw [slice_overwrite_of_le (Nat.le_refl _) h, List.drop_of_length_le hrest, List.append_nil]

theorem getElem?_overwrite_of_outside {buffer bytes : List UInt8} {start i : Nat}
    (h : start + bytes.length ≤ buffer.length) (hi : ¬(start ≤ i ∧ i < start + bytes.length)) :
    (overwrite buffer start bytes)[i]? = buffer[i]? := by
  have hstart : (buffer.take start).length = start := by rw [List.length_take]; omega
  rw [overwrite, List.take_of_length_le (by omega : bytes.length ≤ buffer.length - start)]
  by_cases hfront : i < start
  · rw [List.getElem?_append_left (by omega), List.getElem?_take_of_lt hfront]
  · have hbehind : start + bytes.length ≤ i := by omega
    rw [List.getElem?_append_right (by omega), hstart, List.getElem?_append_right (by omega), List.getElem?_drop]
    congr 1
    omega

theorem getElem?_slice {buffer : List UInt8} {start size i : Nat} (hi : i < size) :
    (slice buffer start size)[i]? = buffer[start + i]? := by
  rw [slice, List.getElem?_take_of_lt hi, List.getElem?_drop]

/-- Only its own bytes matter to a part of a buffer. -/
theorem slice_congr {buffer other : List UInt8} {start size : Nat}
    (h : ∀ i, start ≤ i → i < start + size → buffer[i]? = other[i]?) :
    slice buffer start size = slice other start size := by
  apply List.ext_getElem?
  intro i
  by_cases hi : i < size
  · rw [getElem?_slice hi, getElem?_slice hi]
    exact h (start + i) (by omega) (by omega)
  · rw [slice, slice, List.getElem?_take_eq_none (Nat.le_of_not_lt hi),
      List.getElem?_take_eq_none (Nat.le_of_not_lt hi)]

/-- A part of the buffer that shares no byte with the copied ones stays. -/
theorem slice_overwrite_of_apart {buffer bytes : List UInt8} {start first size : Nat}
    (h : start + bytes.length ≤ buffer.length)
    (hapart : ∀ i, ¬((first ≤ i ∧ i < first + size) ∧ start ≤ i ∧ i < start + bytes.length)) :
    slice (overwrite buffer start bytes) first size = slice buffer first size :=
  slice_congr fun i hfirst hlast => getElem?_overwrite_of_outside h fun hin => hapart i ⟨⟨hfirst, hlast⟩, hin⟩

/-! ### Text -/

/-- The UTF-8 bytes of a text. -/
def textBytes (s : String) : List UInt8 := s.toUTF8.data.toList

/-- The bytes in front of the first zero, among the first `limit` ones. -/
def untilZero (limit : Nat) (bytes : List UInt8) : List UInt8 :=
  (bytes.take limit).takeWhile (· != 0)

theorem length_untilZero_le (limit : Nat) (bytes : List UInt8) : (untilZero limit bytes).length ≤ limit := by
  have hprefix := (List.takeWhile_prefix (l := bytes.take limit) (· != 0)).length_le
  rw [List.length_take] at hprefix
  unfold untilZero
  omega

/-- The bytes, followed by as many zeros as `size` asks for. -/
def padZero (size : Nat) (bytes : List UInt8) : List UInt8 :=
  bytes ++ List.replicate (size - bytes.length) 0

theorem length_padZero {size : Nat} {bytes : List UInt8} (h : bytes.length ≤ size) :
    (padZero size bytes).length = size := by
  rw [padZero, List.length_append, List.length_replicate]
  omega

end LightBus
