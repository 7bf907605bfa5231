import LightBus.Proofs.Package.RoundTrip
import LightBus.Proofs.Responder.Speaking
import LightBus.Proofs.Session.Watching
import LightBus.Responder.Poll
import LightBus.Simulation.Links

/-!
# How a package is closed

A link that has brought a package waits until the responder has closed it: with a response, with the identifier of the
device, or by going back to receiving.  Notes beside the state of the link (`ResponderLink.noting`) tell what a
package is closed with.

* A frame that is no request is closed without an answer, and the device stays as it is.
* A request is closed with what the device answers to it.
* If the application fails, `poll` ends at once and the package stays open.

`Responder.closed_once` puts the exits together.
-/

namespace LightBus

/-- What a package is closed with. -/
inductive Closing where
  | response (response : Response)
  | here (uid : Uid)
  /-- Nothing is sent. -/
  | skip
deriving DecidableEq

/-- What an answer is given with. -/
def Closing.ofAnswer : Answer → Closing
  | .response sent => .response sent
  | .here uid => .here uid
  | .silent => .skip

namespace ResponderLink

variable {σ δ : Type}

def close (link : ResponderLink σ δ) : Closing → Run σ (LinkError δ) Unit
  | .response response => link.sendResponse response
  | .here uid => link.sendHere uid
  | .skip => link.skip

/-- The link with notes of what packages are closed with, also where that fails. -/
def noting (link : ResponderLink σ δ) : ResponderLink (σ × List Closing) δ where
  receive := link.receive.noting id
  sendResponse response := (link.sendResponse response).noting (· ++ [.response response])
  sendHere uid := (link.sendHere uid).noting (· ++ [.here uid])
  skip := link.skip.noting (· ++ [.skip])

private theorem close_noting (link : ResponderLink σ δ) (closing : Closing) :
    link.noting.close closing = (link.close closing).noting (· ++ [closing]) := by
  cases closing <;> rfl

end ResponderLink

namespace Responder

variable {κ υ σ δ ε α : Type} {app : Application κ υ ε} {link : ResponderLink σ δ} {frame : List UInt8}
  {request : Request}

/-- The responder without the notes. -/
def bare (r : Responder κ υ (σ × List Closing)) : Responder κ υ σ := ⟨r.device, r.memory, r.link.1⟩

/-- The frame holds a request, and the application fails on it. -/
def FailsOn (app : Application κ υ ε) (r : Responder κ υ σ) (frame : List UInt8) : Prop :=
  ∃ request e, Package.ofFrame? frame = .ok (.request request) ∧ (r.device.handle app request r.memory).1 = .error e

private theorem runFrom_onLink (a : Run σ (LinkError δ) α) (r : Responder κ υ σ) :
    (onLink a : Run (Responder κ υ σ) (PollError δ ε) α).runFrom r =
      ((a.runFrom r.link).1.mapError .ofLink, { r with link := (a.runFrom r.link).2 }) := by
  rw [onLink, Run.runFrom_within, Run.runFrom_mapError]

private theorem runFrom_onDevice (f : Device κ → υ → Except ε α × Device κ × υ) (r : Responder κ υ σ) :
    (onDevice f : Run (Responder κ υ σ) (PollError δ ε) α).runFrom r =
      ((f r.device r.memory).1.mapError .handler, ⟨(f r.device r.memory).2.1, (f r.device r.memory).2.2, r.link⟩) :=
  rfl

/-! ### The exits -/

section

variable {r : Responder κ υ σ}

/-- What cannot be read is closed without an answer. -/
private theorem answerPackage_of_unread {error : FrameError} (h : Package.ofFrame? frame = .error error) :
    answerPackage app link frame = (do onLink (link.close .skip); throw (.frame error)) := by
  rw [answerPackage, h]
  rfl

/-- So is a response. -/
private theorem answerPackage_of_response {response : Response}
    (h : Package.ofFrame? frame = .ok (.response response)) :
    answerPackage app link frame = (do onLink (link.close .skip); throw .notMatching) := by
  rw [answerPackage, h]
  rfl

private theorem answerPackage_of_answer {answer : Answer} {device : Device κ} {memory : υ}
    (h : Package.ofFrame? frame = .ok (.request request))
    (hanswer : r.device.handle app request r.memory = (.ok answer, device, memory)) :
    (answerPackage app link frame).runFrom r =
      (onLink (link.close (.ofAnswer answer))).runFrom ⟨device, memory, r.link⟩ := by
  rw [answerPackage, h]
  dsimp only
  rw [Run.runFrom_bind, runFrom_onDevice, hanswer]
  cases answer <;> rfl

/-- The error of the application is all that comes of the request: nobody tells the link. -/
private theorem answerPackage_of_failure {error : ε} {device : Device κ} {memory : υ}
    (h : Package.ofFrame? frame = .ok (.request request))
    (herror : r.device.handle app request r.memory = (.error error, device, memory)) :
    (answerPackage app link frame).runFrom r = (.error (.handler error), ⟨device, memory, r.link⟩) := by
  rw [answerPackage, h]
  dsimp only
  rw [Run.runFrom_bind, runFrom_onDevice, herror]
  rfl

/-- What is no request is closed without an answer, ends with an error, and does not reach the device. -/
private theorem answerPackage_of_other (app : Application κ υ ε) (link : ResponderLink σ δ)
    (h : ∀ request, Package.ofFrame? frame ≠ .ok (.request request)) :
    (∃ error, ((answerPackage app link frame).runFrom r).1 = .error error) ∧
      ((answerPackage app link frame).runFrom r).2 = { r with link := ((link.close .skip).runFrom r.link).2 } := by
  have hclosed (error : PollError δ ε) :
      (∃ e, ((do onLink (link.close .skip); throw error : Run (Responder κ υ σ) (PollError δ ε) Unit).runFrom r).1 =
        .error e) ∧
        ((do onLink (link.close .skip); throw error : Run (Responder κ υ σ) (PollError δ ε) Unit).runFrom r).2 =
          { r with link := ((link.close .skip).runFrom r.link).2 } := by
    rw [Run.runFrom_bind, runFrom_onLink]
    cases ((link.close .skip).runFrom r.link).1 with
    | ok => exact ⟨⟨error, rfl⟩, rfl⟩
    | error e => exact ⟨⟨_, rfl⟩, rfl⟩
  cases hread : Package.ofFrame? frame with
  | error error =>
    rw [answerPackage_of_unread hread]
    exact hclosed _
  | ok package =>
    cases package with
    | response response =>
      rw [answerPackage_of_response hread]
      exact hclosed _
    | request request => exact absurd hread (h request)

/-- A frame with the start code of a package goes to the device, as soon as it has been received. -/
private theorem poll_of_package (app : Application κ υ ε) (link : ResponderLink σ δ) {l : σ}
    (hstart : frame.head? = some rdmStart) (hreceived : link.receive.runFrom r.link = (.ok frame, l)) :
    (poll app link).runFrom r =
      (((answerPackage app link frame).runFrom { r with link := l }).1.map fun _ => true,
        ((answerPackage app link frame).runFrom { r with link := l }).2) := by
  obtain ⟨slots, rfl⟩ := List.head?_eq_some_iff.1 hstart
  rw [poll, Run.runFrom_bind, Run.runFrom_attempt, runFrom_onLink, hreceived]
  dsimp only [Except.mapError]
  rw [if_pos rfl, Run.runFrom_bind]
  rcases (answerPackage app link (rdmStart :: slots)).runFrom { r with link := l } with ⟨_ | _, after⟩ <;> rfl

end

/-! ### The notes -/

/-- Without the notes, the first computation is the second one. -/
def Projects (a : Run (Responder κ υ (σ × List Closing)) (PollError δ ε) α)
    (b : Run (Responder κ υ σ) (PollError δ ε) α) : Prop :=
  ∀ r, b.runFrom r.bare = ((a.runFrom r).1, (a.runFrom r).2.bare)

namespace Projects

variable {β : Type} {a : Run (Responder κ υ (σ × List Closing)) (PollError δ ε) α}
  {b : Run (Responder κ υ σ) (PollError δ ε) α}

theorem bind {f : α → Run (Responder κ υ (σ × List Closing)) (PollError δ ε) β}
    {g : α → Run (Responder κ υ σ) (PollError δ ε) β} (h : Projects a b) (hf : ∀ x, Projects (f x) (g x)) :
    Projects (a >>= f) (b >>= g) := by
  intro r
  rw [Run.runFrom_bind, Run.runFrom_bind, h r]
  rcases a.runFrom r with ⟨e | x, after⟩
  · rfl
  · exact hf x after

private theorem ofPure (x : α) :
    Projects (pure x : Run (Responder κ υ (σ × List Closing)) (PollError δ ε) α) (pure x) := fun _ => rfl

private theorem ofThrow (e : PollError δ ε) :
    Projects (throw e : Run (Responder κ υ (σ × List Closing)) (PollError δ ε) α) (throw e) := fun _ => rfl

private theorem attempt (h : Projects a b) : Projects (δ := δ) (ε := ε) a.attempt b.attempt := by
  intro r
  rw [Run.runFrom_attempt, Run.runFrom_attempt, h r]

private theorem onLink (a : Run σ (LinkError δ) α) (note : List Closing → List Closing) :
    Projects (κ := κ) (υ := υ) (ε := ε) (onLink (a.noting note)) (onLink a) := by
  intro r
  rw [runFrom_onLink, runFrom_onLink]
  rfl

private theorem onClose (link : ResponderLink σ δ) (closing : Closing) :
    Projects (κ := κ) (υ := υ) (ε := ε) (Responder.onLink (link.noting.close closing))
      (Responder.onLink (link.close closing)) := by
  rw [link.close_noting]
  exact onLink _ _

private theorem onDevice (f : Device κ → υ → Except ε α × Device κ × υ) :
    Projects (σ := σ) (δ := δ) (onDevice f) (onDevice f) := fun _ => rfl

private theorem answerPackage (app : Application κ υ ε) (link : ResponderLink σ δ) (frame : List UInt8) :
    Projects (answerPackage app link.noting frame) (answerPackage app link frame) := by
  unfold Responder.answerPackage
  cases Package.ofFrame? frame with
  | error error => exact .bind (.onClose link .skip) fun _ => .ofThrow _
  | ok package =>
    cases package with
    | response response => exact .bind (.onClose link .skip) fun _ => .ofThrow _
    | request request =>
      refine .bind (.onDevice _) fun answer => ?_
      cases answer with
      | response response => exact .onClose link (.response response)
      | here uid => exact .onClose link (.here uid)
      | silent => exact .onClose link .skip

theorem poll (app : Application κ υ ε) (link : ResponderLink σ δ) :
    Projects (poll app link.noting) (poll app link) := by
  refine .bind (.attempt (.onLink link.receive id)) fun received => ?_
  cases received with
  | error error => cases error <;> first | exact .ofPure _ | exact .ofThrow _
  | ok frame =>
    cases frame with
    | nil => exact .ofThrow _
    | cons startCode slots =>
      dsimp only
      split
      · exact .bind (answerPackage app link _) fun _ => .ofPure _
      · exact .bind (.onDevice _) fun _ => .ofPure _

end Projects

/-- Each package that the link brings is closed once, unless the application fails on it; then it stays open.  A
package that is no request is closed without an answer, and the device stays as it is. -/
theorem closed_once (app : Application κ υ ε) (link : ResponderLink σ δ) (r : Responder κ υ (σ × List Closing))
    {frame : List UInt8} {l : σ} (hstart : frame.head? = some rdmStart)
    (hreceived : link.receive.runFrom r.link.1 = (.ok frame, l)) :
    let ended := (poll app link.noting).runFrom r
    (poll app link).runFrom r.bare = (ended.1, ended.2.bare) ∧
    (¬r.FailsOn app frame →
      ∃ closing, ended.2.link = (((link.close closing).runFrom l).2, r.link.2 ++ [closing])) ∧
    (∀ request answer, Package.ofFrame? frame = .ok (.request request) →
      (r.device.handle app request r.memory).1 = .ok answer → ended.2.link.2 = r.link.2 ++ [.ofAnswer answer]) ∧
    ((∀ request, Package.ofFrame? frame ≠ .ok (.request request)) →
      ended.2.link.2 = r.link.2 ++ [.skip] ∧ ended.2.device = r.device ∧ ended.2.memory = r.memory ∧
        ∃ error, ended.1 = .error error) ∧
    (r.FailsOn app frame → ended.2.link = (l, r.link.2) ∧ ∃ error, ended.1 = .error (.handler error)) := by
  dsimp only
  have hpoll := poll_of_package app link.noting (r := r) (l := (l, r.link.2)) hstart
    (congrArg (fun x => (x.1, (x.2, r.link.2))) hreceived)
  have hanswered {request : Request} {answer : Answer} (hread : Package.ofFrame? frame = .ok (.request request))
      (hanswer : (r.device.handle app request r.memory).1 = .ok answer) :
      ((poll app link.noting).runFrom r).2.link =
        (((link.close (.ofAnswer answer)).runFrom l).2, r.link.2 ++ [.ofAnswer answer]) := by
    rw [hpoll, answerPackage_of_answer (r := { r with link := (l, r.link.2) }) hread (Prod.ext hanswer rfl),
      runFrom_onLink, link.close_noting]
    rfl
  have hskipped (hother : ∀ request, Package.ofFrame? frame ≠ .ok (.request request)) :
      ((poll app link.noting).runFrom r).2 =
        { r with link := (((link.close .skip).runFrom l).2, r.link.2 ++ [.skip]) } := by
    rw [hpoll]
    exact (answerPackage_of_other app link.noting hother).2
  refine ⟨Projects.poll app link r, fun hfails => ?_, fun request answer hread hanswer => ?_, fun hother => ?_, ?_⟩
  · by_cases hrequest : ∃ request, Package.ofFrame? frame = .ok (.request request)
    · obtain ⟨request, hread⟩ := hrequest
      cases hanswer : (r.device.handle app request r.memory).1 with
      | error error => exact absurd ⟨request, error, hread, hanswer⟩ hfails
      | ok answer => exact ⟨_, hanswered hread hanswer⟩
    · rw [hskipped (not_exists.1 hrequest)]
      exact ⟨.skip, rfl⟩
  · rw [hanswered hread hanswer]
  · rw [hskipped hother]
    obtain ⟨error, herror⟩ := (answerPackage_of_other app link.noting (r := { r with link := (l, r.link.2) })
      hother).1
    refine ⟨rfl, rfl, rfl, error, ?_⟩
    rw [hpoll, herror]
    rfl
  · rintro ⟨request, error, hread, herror⟩
    rw [hpoll, answerPackage_of_failure (r := { r with link := (l, r.link.2) }) hread (Prod.ext herror rfl)]
    exact ⟨rfl, error, rfl⟩

open Simulation

/-- The bare device on a link that brings a request for it. -/
def wished {υ : Type} (memory : υ) : Responder SampleRule υ (Inbox Empty × List Closing) :=
  ⟨Device.bareDevice, memory, (⟨.ok (Package.request Device.discoveryWish).frame, none, []⟩, [])⟩

private theorem read_discoveryWish :
    Package.ofFrame? (Package.request Device.discoveryWish).frame = .ok (.request Device.discoveryWish) :=
  Package.ofFrame?_eq_ok_iff.2 ⟨⟨by decide, by decide⟩, rfl⟩

theorem closed_once_madeUp :
    ((poll Journal.application Inbox.link.noting).runFrom (wished (Device.inventive (Device.madeUp .ack)))).2.link.2 =
      [.response (Device.madeUp .ack)] := by
  have hstart : (Package.request Device.discoveryWish).frame.head? = some rdmStart := rfl
  obtain ⟨-, -, hanswered, -⟩ :=
    closed_once Journal.application Inbox.link (wished (Device.inventive (Device.madeUp .ack))) hstart rfl
  exact hanswered _ _ read_discoveryWish rfl

/-- An application that fails on everything leaves a request to its device open. -/
theorem open_of_failure :
    let r : Responder SampleRule (Journal Unit) (Inbox Empty × List Closing) :=
      wished (.new (some fun _ => some (.fail ())))
    let ended := (poll Journal.application Inbox.link.noting).runFrom r
    (Inbox.link.receive.runFrom r.link.1).1 = .ok (Package.request Device.discoveryWish).frame ∧
      Package.ofFrame? (Package.request Device.discoveryWish).frame = .ok (.request Device.discoveryWish) ∧
      ended.1 = .error (.handler ()) ∧ ended.2.link.2 = [] ∧ ended.2.link.1.sent = [] := by
  have hstart : (Package.request Device.discoveryWish).frame.head? = some rdmStart := rfl
  have hpoll := poll_of_package Journal.application Inbox.link.noting
    (r := wished (.new (some fun _ => some (.fail ())))) hstart rfl
  rw [answerPackage_of_failure read_discoveryWish rfl] at hpoll
  dsimp only
  rw [hpoll]
  exact ⟨rfl, read_discoveryWish, rfl, rfl, rfl⟩

end Responder

end LightBus
