import LightBus.Proofs.Package.RoundTrip
import Mathlib.Algebra.GroupWithZero.Nat

/-!
# Frames that have changed on the way

Two contents have the same checksum exactly if their sums agree modulo `2 ^ 16` (`checksum_eq_iff`).  A byte that has
changed alters the sum by less than 256, so that the checksum tells it (`checksum_set_ne`), and a byte of the checksum
itself is compared as it is.

A frame in which one byte has changed is therefore refused, and so is one whose content has another sum
(`Package.wrongChecksum_of_changed`).
-/

namespace LightBus

variable {bytes other content trailer frame : List UInt8} {i : Nat} {x : UInt8}

/-! ### Sums -/

private theorem checksum_eq (bytes : List UInt8) : checksum bytes = UInt16.ofNat (bytes.map UInt8.toNat).sum := by
  rw [checksum, List.sum, List.foldr_map]

/-- The checksum is the sum of the bytes modulo `2 ^ 16`. -/
theorem checksum_eq_iff :
    checksum bytes = checksum other ↔ (bytes.map UInt8.toNat).sum % 65536 = (other.map UInt8.toNat).sum % 65536 := by
  rw [checksum_eq, checksum_eq, ← UInt16.toNat_inj, UInt16.toNat_ofNat', UInt16.toNat_ofNat']

/-- The new byte takes the place of the old one in the sum. -/
private theorem sum_set (hi : i < bytes.length) :
    ((bytes.set i x).map UInt8.toNat).sum + bytes[i].toNat = (bytes.map UInt8.toNat).sum + x.toNat := by
  induction bytes generalizing i with
  | nil => cases hi
  | cons y bytes ih =>
    cases i with
    | zero =>
      simp only [List.set_cons_zero, List.map_cons, List.sum_cons, List.getElem_cons_zero]
      omega
    | succ i =>
      have hrest := ih (Nat.lt_of_succ_lt_succ hi)
      simp only [List.set_cons_succ, List.map_cons, List.sum_cons, List.getElem_cons_succ]
      omega

theorem checksum_set_ne (hi : i < bytes.length) (hx : bytes[i] ≠ x) : checksum (bytes.set i x) ≠ checksum bytes := by
  intro hsame
  have hsum := sum_set (x := x) hi
  have hold := bytes[i].toNat_lt
  have hnew := x.toNat_lt
  have hmod := checksum_eq_iff.1 hsame
  exact hx (UInt8.toNat_inj.1 (by omega))

theorem word_inj {v w : UInt16} : word v = word w ↔ v = w := by
  constructor
  · intro h
    obtain ⟨hi, lo, hbytes, hv⟩ := exists_word v
    obtain ⟨hi', lo', hbytes', hw⟩ := exists_word w
    rw [hbytes, hbytes'] at h
    obtain ⟨rfl, hlo⟩ := List.cons.inj h
    obtain ⟨rfl, -⟩ := List.cons.inj hlo
    exact hv.symm.trans hw
  · rintro rfl
    rfl

/-! ### Frames -/

theorem checksumValid_append (htrailer : trailer.length = 2) :
    checksumValid (content ++ trailer) = true ↔ trailer = word (checksum content) := by
  simp [checksumValid, htrailer]

/-- No frame with a right checksum differs from another one in a single byte. -/
private theorem checksumValid_set (hvalid : checksumValid frame = true) (hi : i < frame.length) (hx : frame[i] ≠ x) :
    checksumValid (frame.set i x) = false := by
  obtain ⟨content, rfl⟩ := checksumValid_iff.1 hvalid
  refine eq_false_of_ne_true fun hvalid' => ?_
  unfold withChecksum at hi hx hvalid'
  by_cases hcontent : i < content.length
  · rw [List.getElem_append_left hcontent] at hx
    rw [List.set_append_left i x hcontent, checksumValid_append (length_word _), word_inj] at hvalid'
    exact checksum_set_ne hcontent hx hvalid'.symm
  · have hle : content.length ≤ i := Nat.le_of_not_lt hcontent
    rw [List.getElem_append_right hle] at hx
    rw [List.set_append_right i x hle, checksumValid_append (by rw [List.length_set, length_word])] at hvalid'
    have hsame := congrArg (fun bytes => bytes[i - content.length]?) hvalid'
    rw [List.length_append] at hi
    have hin : i - content.length < (word (checksum content)).length := by omega
    simp only [List.getElem?_set_self hin, List.getElem?_eq_getElem hin, Option.some.injEq] at hsame
    exact hx hsame.symm

namespace Package

private theorem ofFrame?_of_wrongChecksum (hmin : minPackageSize ≤ frame.length)
    (hmax : frame.length ≤ maxPackageSize) (hwrong : checksumValid frame = false) :
    ofFrame? frame = .error .wrongChecksum := by
  have hsize : checkSize frame = .ok () := by
    rw [checkSize, if_neg (Nat.not_lt_of_le hmin), if_neg (Nat.not_lt_of_le hmax)]
  unfold ofFrame?
  rw [hsize, hwrong]
  rfl

/-- A frame with one other byte, be it in the content or in the checksum, is refused for its checksum, and so is a
frame whose content has another sum than that of the frame with the same checksum. -/
theorem wrongChecksum_of_changed (frame : List UInt8) (hvalid : checksumValid frame = true) :
    (minPackageSize ≤ frame.length → frame.length ≤ maxPackageSize → ∀ (i : Nat) (hi : i < frame.length) (x : UInt8),
      frame[i] ≠ x → checksumValid (frame.set i x) = false ∧ ofFrame? (frame.set i x) = .error .wrongChecksum) ∧
    ∀ content trailer other : List UInt8, frame = content ++ trailer → trailer.length = 2 →
      (other.map UInt8.toNat).sum % 65536 ≠ (content.map UInt8.toNat).sum % 65536 →
      checksumValid (other ++ trailer) = false ∧ (minPackageSize ≤ (other ++ trailer).length →
        (other ++ trailer).length ≤ maxPackageSize → ofFrame? (other ++ trailer) = .error .wrongChecksum) := by
  constructor
  · intro hmin hmax i hi x hx
    have hwrong := checksumValid_set hvalid hi hx
    have hlength : (frame.set i x).length = frame.length := List.length_set
    exact ⟨hwrong, ofFrame?_of_wrongChecksum (by rwa [hlength]) (by rwa [hlength]) hwrong⟩
  · rintro content trailer other rfl htrailer hsum
    have hwrong : checksumValid (other ++ trailer) = false := by
      refine eq_false_of_ne_true fun hvalid' => hsum ?_
      rw [checksumValid_append htrailer] at hvalid hvalid'
      exact checksum_eq_iff.1 (word_inj.1 (hvalid'.symm.trans hvalid))
    exact ⟨hwrong, fun hmin hmax => ofFrame?_of_wrongChecksum hmin hmax hwrong⟩

/-- A request for the information about a device. -/
def askedForInfo : List UInt8 :=
  [0xCC, 0x01, 0x18, 0x05, 0xE0, 0x00, 0x00, 0x00, 0x01, 0x7F, 0xF0, 0x00, 0x00, 0x00, 0x00, 0x07, 0x01, 0x00,
    0x00, 0x00, 0x20, 0x00, 0x60, 0x00, 0x03, 0xC2]

/-- A byte of the checksum has changed, and then the device that is asked and the transaction. -/
theorem wrongChecksum_of_changed_info : checksumValid askedForInfo = true ∧
    ofFrame? (askedForInfo.set 24 0x83) = .error .wrongChecksum ∧
    ofFrame? (((askedForInfo.take 24).set 8 0x02).set 15 0x08 ++ [0x03, 0xC2]) = .error .wrongChecksum := by
  have hvalid : checksumValid askedForInfo = true := by decide
  obtain ⟨hbyte, hcontent⟩ := wrongChecksum_of_changed askedForInfo hvalid
  exact ⟨hvalid, (hbyte (by decide) (by decide) 24 (by decide) 0x83 (by decide)).2,
    (hcontent (askedForInfo.take 24) [0x03, 0xC2] _ (by decide) rfl (by decide)).2 (by decide) (by decide)⟩

/-- Two bytes that change places are not told apart by their sum. -/
example : (ofFrame? ((askedForInfo.set 3 0xE0).set 4 0x05)).toOption ≠ none := by decide

end Package

end LightBus
