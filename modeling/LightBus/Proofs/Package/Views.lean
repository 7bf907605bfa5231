import LightBus.Proofs.Package.Numbering

/-!
# Looking at a frame and reading it

The interrupts of a port look at single slots of a frame (`Frame.isRequest` and what builds on it), and tasks read
whole packages (`Package.ofFrameUnchecked?`).  What the slots tell of a frame that can be read is what the package
says: `Frame.view_of_request` and `Frame.view_of_response`.
-/

namespace LightBus

/-- Classes have different codes. -/
private theorem CommandClass.beq_requestCode (c d : CommandClass) : (c.requestCode == d.requestCode) = (c == d) := by
  cases c <;> cases d <;> rfl

namespace Frame

variable {frame : List UInt8}

/-- The slots of a frame that the package `p` is read from. -/
structure View (p : Package) (frame : List UInt8) : Prop where
  isPackage : isPackage frame = true
  destination : destination frame = p.header.destination
  classCode : classCode frame = p.header.classCode
  parameterId : parameterId frame = p.header.parameterId

theorem view_of_read {p : Package} (h : Package.ofFrameUnchecked? frame = .ok p) : View p frame := by
  obtain ⟨hproper, trailer, htrailer, hframe⟩ := Package.ofFrameUnchecked?_eq_ok_iff.1 h
  obtain ⟨-, hheader⟩ := Header.ofFrame_content hproper p.data trailer
  have hlong : minPackageSize ≤ frame.length := by
    rw [hframe, List.length_append, Header.length_content, htrailer, minPackageSize, rdmHeaderSize]
    omega
  have hhead : frame.head? = some rdmStart := by
    rw [hframe]
    rfl
  rw [← hframe] at hheader
  refine ⟨?_, congrArg Header.destination hheader, congrArg Header.classCode hheader,
    congrArg Header.parameterId hheader⟩
  rw [isPackage, decide_eq_true hlong, hhead]
  rfl

/-- What the slots of a request tell is what the request says. -/
theorem view_of_request {request : Request} (h : Package.ofFrameUnchecked? frame = .ok (.request request)) :
    isRequest frame = true ∧ isResponse frame = false ∧ expectsResponse frame = request.expectsResponse ∧
      isBranchProbe frame = request.isBranchProbe := by
  have hview := view_of_read h
  have hclass : classCode frame = request.commandClass.requestCode := hview.classCode
  have hrequest : isRequest frame = true := by
    rw [isRequest, hview.isPackage, hclass, CommandClass.ofRequestCode?_eq_some_iff.2 rfl]
    rfl
  have hprobe : isBranchProbe frame = request.isBranchProbe := by
    rw [isBranchProbe, hrequest, hclass, CommandClass.beq_requestCode, hview.parameterId]
    rfl
  refine ⟨hrequest, isResponse_of_isRequest hrequest, ?_, hprobe⟩
  rw [expectsResponse, hrequest, hprobe, hview.destination]
  rfl

/-- A response is taken for nothing else. -/
theorem view_of_response {response : Response} (h : Package.ofFrameUnchecked? frame = .ok (.response response)) :
    isRequest frame = false ∧ isResponse frame = true ∧ expectsResponse frame = false ∧
    isBranchProbe frame = false := by
  have hview := view_of_read h
  have hclass : classCode frame = response.commandClass.responseCode := hview.classCode
  have hresponse : isResponse frame = true := by
    rw [isResponse, hview.isPackage, hclass, CommandClass.ofResponseCode?_eq_some_iff.2 rfl]
    rfl
  have hrequest : isRequest frame = false := by
    rw [isRequest, hclass, CommandClass.ofRequestCode?_responseCode]
    exact Bool.and_false _
  refine ⟨hrequest, hresponse, ?_, ?_⟩
  · rw [expectsResponse, hrequest, Bool.false_and]
  · rw [isBranchProbe, hrequest]
    rfl

end Frame

end LightBus
