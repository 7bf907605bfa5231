import LightBus.Proofs.Package.Stamping

/-!
# Numbering requests

What is asked about a frame before it is sent is told from single slots.  For the frame of a package, the answers are
those of the package.

A request gets the number of its transaction just before it is sent (`Frame.numbered`).  The frame of a request is
then the frame of the request with this number (`Package.numbered_request`).
-/

namespace LightBus

namespace Frame

variable {frame : List UInt8}

/-- A request with the number of its transaction, and any other frame as it is. -/
def numbered (transaction : UInt8) (frame : List UInt8) : List UInt8 :=
  if isRequest frame then (stamp? frame transaction).getD frame else frame

theorem isResponse_of_isRequest (h : isRequest frame = true) : isResponse frame = false := by
  rw [isRequest, Bool.and_eq_true, Option.isSome_iff_exists] at h
  obtain ⟨-, c, hc⟩ := h
  rw [CommandClass.ofRequestCode?_eq_some_iff] at hc
  rw [isResponse, ← hc]
  cases c <;> exact Bool.and_false _

theorem length_numbered (transaction : UInt8) (frame : List UInt8) :
    (numbered transaction frame).length = frame.length := by
  unfold numbered
  split
  · cases hstamped : stamp? frame transaction with
    | none => rfl
    | some stamped => exact length_stamp? hstamped
  · rfl

/-- The frames are as long as each other, and agree in their headers but for the number of the transaction. -/
structure SameKind (frame other : List UInt8) : Prop where
  length : other.length = frame.length
  header (i : Nat) (hi : i < rdmHeaderSize) (hne : i ≠ 15) : other[i]? = frame[i]?

namespace SameKind

variable {other : List UInt8}

theorem refl (frame : List UInt8) : SameKind frame frame := ⟨rfl, fun _ _ _ => rfl⟩

private theorem slot (h : SameKind frame other) {i : Nat} (hi : i < rdmHeaderSize) (hne : i ≠ 15) :
    other.getD i 0 = frame.getD i 0 := by
  rw [List.getD_eq_getElem?_getD, List.getD_eq_getElem?_getD, h.header i hi hne]

private theorem isPackage (h : SameKind frame other) : isPackage other = isPackage frame := by
  rw [Frame.isPackage, Frame.isPackage, h.length, List.head?_eq_getElem?, List.head?_eq_getElem?,
    h.header 0 (by decide) (by decide)]

private theorem classCode (h : SameKind frame other) : classCode other = classCode frame :=
  h.slot (by decide) (by decide)

theorem isRequest (h : SameKind frame other) : isRequest other = isRequest frame := by
  rw [Frame.isRequest, Frame.isRequest, h.isPackage, h.classCode]

theorem isResponse (h : SameKind frame other) : isResponse other = isResponse frame := by
  rw [Frame.isResponse, Frame.isResponse, h.isPackage, h.classCode]

theorem isBranchProbe (h : SameKind frame other) : isBranchProbe other = isBranchProbe frame := by
  have hparameter : parameterId other = parameterId frame := by
    rw [parameterId, parameterId, h.slot (by decide) (by decide), h.slot (by decide) (by decide)]
  rw [Frame.isBranchProbe, Frame.isBranchProbe, h.isRequest, h.classCode, hparameter]

theorem expectsResponse (h : SameKind frame other) : expectsResponse other = expectsResponse frame := by
  have hdestination : destination other = destination frame := by
    unfold destination address
    rw [h.slot (by decide) (by decide), h.slot (by decide) (by decide), h.slot (by decide) (by decide),
      h.slot (by decide) (by decide), h.slot (by decide) (by decide), h.slot (by decide) (by decide)]
  rw [Frame.expectsResponse, Frame.expectsResponse, h.isRequest, hdestination, h.isBranchProbe]

end SameKind

private theorem sameKind_stamp? {stamped : List UInt8} {transaction : UInt8}
    (h : stamp? frame transaction = some stamped) :
    SameKind frame stamped := by
  have hheader := (stamp?_eq_some_iff.1 h).1.header_le
  exact ⟨length_stamp? h, fun i hi hne => getElem?_stamp? h hne (by omega)⟩

/-- What a frame is does not depend on its number. -/
theorem sameKind_numbered (transaction : UInt8) (frame : List UInt8) :
    SameKind frame (numbered transaction frame) := by
  unfold numbered
  split
  · cases hstamped : stamp? frame transaction with
    | none => exact .refl frame
    | some stamped => exact sameKind_stamp? hstamped
  · exact .refl frame

end Frame

namespace Package

variable {r : Request}

private theorem isPackage_frame (p : Package) : Frame.isPackage p.frame = true := by
  have hlength : minPackageSize ≤ p.frame.length := by
    rw [length_frame]
    exact Nat.le_add_right _ _
  rw [Frame.isPackage, decide_eq_true hlength]
  rfl

private theorem classCode_frame (p : Package) : Frame.classCode p.frame = p.header.classCode := rfl

private theorem parameterId_frame (p : Package) : Frame.parameterId p.frame = p.header.parameterId := by
  obtain ⟨hi, lo, hw, hw'⟩ := exists_word p.header.parameterId
  rw [← hw']
  show wordOf ((word p.header.parameterId).getD 0 0) ((word p.header.parameterId).getD 1 0) = _
  rw [hw]
  rfl

theorem isRequest_request (r : Request) : Frame.isRequest (Package.request r).frame = true := by
  simp [Frame.isRequest, isPackage_frame, classCode_frame, header, CommandClass.ofRequestCode?_eq_some_iff.2 rfl]

theorem isResponse_response (r : Response) : Frame.isResponse (Package.response r).frame = true := by
  simp [Frame.isResponse, isPackage_frame, classCode_frame, header, CommandClass.ofResponseCode?_eq_some_iff.2 rfl]

/-- A branch probe is answered, whoever it goes to. -/
theorem expectsResponse_probe (h : r.isBranchProbe = true) :
    Frame.expectsResponse (Package.request r).frame = true := by
  simp only [Request.isBranchProbe, Bool.and_eq_true, beq_iff_eq] at h
  have hprobe : Frame.isBranchProbe (Package.request r).frame = true := by
    rw [Frame.isBranchProbe, isRequest_request, classCode_frame, parameterId_frame]
    simp [Package.header, h]
  rw [Frame.expectsResponse, isRequest_request, hprobe, Bool.or_true]
  rfl

private theorem stamp?_request (r : Request) (transaction : UInt8) :
    Frame.stamp? (Package.request r).frame transaction = some (Package.request { r with transaction }).frame := by
  have h := stamp?_request_append r [] transaction
  rwa [List.append_nil, List.append_nil] at h

theorem numbered_request (r : Request) (transaction : UInt8) :
    Frame.numbered transaction (Package.request r).frame = (Package.request { r with transaction }).frame := by
  rw [Frame.numbered, if_pos (isRequest_request r), stamp?_request]
  rfl

theorem numbered_response (r : Response) (transaction : UInt8) :
    Frame.numbered transaction (Package.response r).frame = (Package.response r).frame := by
  refine if_neg fun hrequest => ?_
  exact absurd (isResponse_response r) (ne_true_of_eq_false (Frame.isResponse_of_isRequest hrequest))

end Package

end LightBus
