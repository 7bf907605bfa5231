import LightBus.Proofs.Package.RoundTrip

/-!
# Putting a number into a frame

A frame takes the number of a transaction if all slots of the package that its length byte announces are there
(`Frame.HoldsPackage`).  Then one slot of the header and the two of the checksum are written anew
(`Frame.getElem?_stamp?`), and the checksum is right whatever it was before (`Frame.checksumValid_stamp?`).

A request with another number needs not be written again: its frame with the number put in is the frame of the request
with this number, and what lies behind it in the buffer stays (`Package.stamp?_request_append`).
-/

namespace LightBus

namespace Frame

variable {frame stamped : List UInt8} {transaction : UInt8} {i : Nat}

/-- The slots in front of the checksum, as the length byte tells. -/
def contentSize (frame : List UInt8) : Nat := (frame.getD 2 0).toNat

/-- The frame begins with all slots of the package that its length byte announces. -/
structure HoldsPackage (frame : List UInt8) : Prop where
  min_le : minPackageSize ≤ frame.length
  start : frame.head? = some rdmStart
  header_le : rdmHeaderSize ≤ contentSize frame
  fits : contentSize frame + 2 ≤ frame.length

theorem stamp?_eq_some_iff : stamp? frame transaction = some stamped ↔ HoldsPackage frame ∧
    stamped = withChecksum ((frame.set 15 transaction).take (contentSize frame)) ++
      frame.drop (contentSize frame + 2) := by
  have hguard : (isPackage frame ∧ minPackageSize ≤ contentSize frame + 2 ∧ contentSize frame + 2 ≤ frame.length) ↔
      HoldsPackage frame := by
    rw [isPackage, Bool.and_eq_true, decide_eq_true_eq, beq_iff_eq, minPackageSize]
    constructor
    · rintro ⟨⟨hmin, hstart⟩, hheader, hfits⟩
      exact ⟨hmin, hstart, Nat.le_of_add_le_add_right (b := 2) hheader, hfits⟩
    · rintro ⟨hmin, hstart, hheader, hfits⟩
      exact ⟨⟨hmin, hstart⟩, Nat.add_le_add_right hheader 2, hfits⟩
  rw [← hguard, stamp?]
  dsimp only [contentSize]
  split
  · rename_i hholds
    rw [Option.some.injEq, eq_comm]
    exact (and_iff_right hholds).symm
  · rename_i hlacks
    constructor
    · intro h
      cases h
    · rintro ⟨hholds, -⟩
      exact absurd hholds hlacks

theorem isSome_stamp?_iff : (stamp? frame transaction).isSome = true ↔ HoldsPackage frame := by
  rw [Option.isSome_iff_exists]
  constructor
  · rintro ⟨stamped, h⟩
    exact (stamp?_eq_some_iff.1 h).1
  · intro hholds
    exact ⟨_, stamp?_eq_some_iff.2 ⟨hholds, rfl⟩⟩

/-- The content with the number is as long as it was. -/
theorem HoldsPackage.length_content (h : HoldsPackage frame) (transaction : UInt8) :
    ((frame.set 15 transaction).take (contentSize frame)).length = contentSize frame := by
  have hfits := h.fits
  rw [List.length_take, List.length_set]
  omega

theorem length_stamp? (h : stamp? frame transaction = some stamped) : stamped.length = frame.length := by
  obtain ⟨hholds, rfl⟩ := stamp?_eq_some_iff.1 h
  have hfits := hholds.fits
  rw [List.length_append, length_withChecksum, hholds.length_content, List.length_drop]
  omega

/-- Only the number and the checksum are written. -/
theorem getElem?_stamp? (h : stamp? frame transaction = some stamped) (hnumber : i ≠ 15)
    (hchecksum : ¬(contentSize frame ≤ i ∧ i < contentSize frame + 2)) : stamped[i]? = frame[i]? := by
  obtain ⟨hholds, rfl⟩ := stamp?_eq_some_iff.1 h
  have hcontent := hholds.length_content transaction
  by_cases hfront : i < contentSize frame
  · rw [withChecksum, List.append_assoc, List.getElem?_append_left (by omega), List.getElem?_take_of_lt hfront,
      List.getElem?_set_ne (Ne.symm hnumber)]
  · have hbehind : contentSize frame + 2 ≤ i := by omega
    have hchecked :
        (withChecksum ((frame.set 15 transaction).take (contentSize frame))).length = contentSize frame + 2 := by
      rw [length_withChecksum, hcontent]
    rw [List.getElem?_append_right (by omega), hchecked, List.getElem?_drop]
    congr 1
    omega

private theorem number_stamp? (h : stamp? frame transaction = some stamped) : stamped[15]? = some transaction := by
  obtain ⟨hholds, rfl⟩ := stamp?_eq_some_iff.1 h
  have hcontent := hholds.length_content transaction
  have hheader := hholds.header_le
  have hfits := hholds.fits
  rw [rdmHeaderSize] at hheader
  rw [withChecksum, List.append_assoc, List.getElem?_append_left (by omega), List.getElem?_take_of_lt (by omega),
    List.getElem?_set_self (by omega)]

/-- The package has a right checksum then, even if it had none before. -/
theorem checksumValid_stamp? (h : stamp? frame transaction = some stamped) :
    checksumValid (stamped.take (contentSize frame + 2)) = true := by
  obtain ⟨hholds, rfl⟩ := stamp?_eq_some_iff.1 h
  rw [List.take_left' (by rw [length_withChecksum, hholds.length_content])]
  exact checksumValid_iff.2 ⟨_, rfl⟩

end Frame

namespace Package

/-- Whatever lies behind its frame, a request gets the number of a transaction by a few writes in place. -/
theorem stamp?_request_append (r : Request) (rest : List UInt8) (transaction : UInt8) :
    Frame.stamp? ((Package.request r).frame ++ rest) transaction =
      some ((Package.request { r with transaction }).frame ++ rest) := by
  have hle := r.data.length_le
  rw [maxPayloadSize] at hle
  have hlength : (Package.request r).frame.length = 26 + r.data.bytes.length := length_frame _
  have hsize : Frame.contentSize ((Package.request r).frame ++ rest) = 24 + r.data.bytes.length := by
    show (UInt8.ofNat (24 + r.data.bytes.length)).toNat = _
    rw [UInt8.toNat_ofNat']
    omega
  have hset : ((Package.request r).frame ++ rest).set 15 transaction =
      ((Package.request { r with transaction }).header.content r.data ++
        word (checksum ((Package.request r).header.content r.data))) ++ rest := rfl
  have hcontent : (((Package.request r).frame ++ rest).set 15 transaction).take (24 + r.data.bytes.length) =
      (Package.request { r with transaction }).header.content r.data := by
    rw [hset, List.append_assoc]
    exact List.take_left' (Header.length_content _ _)
  have hrest : ((Package.request r).frame ++ rest).drop (24 + r.data.bytes.length + 2) = rest :=
    List.drop_left' (by omega)
  refine Frame.stamp?_eq_some_iff.2 ⟨⟨?_, rfl, ?_, ?_⟩, ?_⟩
  · rw [List.length_append, hlength, minPackageSize]
    omega
  · rw [hsize, rdmHeaderSize]
    omega
  · rw [hsize, List.length_append, hlength]
    omega
  · rw [hsize, hcontent, hrest]
    rfl

end Package

namespace Frame

/-- Puts the number into a frame, if there is a package to take it, and tells whether there is.  Any other frame is
left alone. -/
def stamp (frame : List UInt8) (transaction : UInt8) : Bool × List UInt8 :=
  ((stamp? frame transaction).isSome, (stamp? frame transaction).getD frame)

/-- Numbering a request in place is the same as writing it again with the number.  Any frame whatever is numbered
exactly if its package is all there; then only the number and the checksum are written, and the checksum is right.
All others stay as they are. -/
theorem stamp_rewrites :
    (∀ (r : Request) (rest : List UInt8) (transaction : UInt8),
      stamp ((Package.request r).frame ++ rest) transaction =
        (true, (Package.request { r with transaction }).frame ++ rest)) ∧
    ∀ (frame : List UInt8) (transaction : UInt8),
      let length := (frame.getD 2 0).toNat
      ((stamp frame transaction).1 = true ↔
        26 ≤ frame.length ∧ frame.head? = some 0xCC ∧ 24 ≤ length ∧ length + 2 ≤ frame.length) ∧
      ((stamp frame transaction).1 = true →
        (stamp frame transaction).2.length = frame.length ∧
        (stamp frame transaction).2[15]? = some transaction ∧
        (∀ i, i ≠ 15 → i ≠ length → i ≠ length + 1 → (stamp frame transaction).2[i]? = frame[i]?) ∧
        checksumValid ((stamp frame transaction).2.take (length + 2)) = true) ∧
      ((stamp frame transaction).1 = false → (stamp frame transaction).2 = frame) := by
  refine ⟨fun r rest transaction => ?_, fun frame transaction => ⟨?_, fun htrue => ?_, fun hfalse => ?_⟩⟩
  · rw [stamp, Package.stamp?_request_append]
    rfl
  · rw [stamp, isSome_stamp?_iff]
    exact ⟨fun h => ⟨h.min_le, h.start, h.header_le, h.fits⟩, fun ⟨hmin, hstart, hheader, hfits⟩ =>
      ⟨hmin, hstart, hheader, hfits⟩⟩
  · obtain ⟨stamped, hstamped⟩ := Option.isSome_iff_exists.1 htrue
    have hframe : (stamp frame transaction).2 = stamped := by rw [stamp, hstamped, Option.getD_some]
    rw [hframe]
    refine ⟨length_stamp? hstamped, number_stamp? hstamped, fun i hnumber hfirst hsecond => ?_,
      checksumValid_stamp? hstamped⟩
    refine getElem?_stamp? hstamped hnumber ?_
    rw [contentSize]
    omega
  · rw [stamp, Option.isSome_eq_false_iff, Option.isNone_iff_eq_none] at hfalse
    rw [stamp, hfalse, Option.getD_none]

end Frame

end LightBus
