import LightBus.Proofs.Bus.Delivery
import LightBus.Proofs.Bus.Steps
import LightBus.Proofs.Package.Views
import LightBus.Proofs.Responder.Speaking

/-!
# Requests that a port answers

The port of a responder turns around when a request has come that it has to answer, and keeps the request until the
task has read it.  Three parties look at the same slots: the bus at single ones, the task at the whole package, and
the device decides what it answers.

* (bus) What comes after a break turns the bus around if it begins with a valid package that asks for an answer of
  this port (`Bus.turnsIff_of_chunks`), whatever the chunks are.
* (task) Such a package is read as a request that expects a response and goes to the port (`Frame.view_of_request`).
* (device) A device with the identifier of the port answers nothing else (`Answer.Permitted.expected`).
-/

namespace LightBus

/-- The effects turn the bus around under the condition, and do nothing of that kind otherwise. -/
structure TurnsIff (effects : List Effect) (condition : Prop) : Prop where
  deaf : .disableRx ∈ effects ↔ condition
  transmit : .turn .transmit ∈ effects ↔ condition

namespace TurnsIff

variable {first second effects : List Effect} {p q : Prop}

theorem append (hfirst : TurnsIff first p) (hsecond : TurnsIff second q) : TurnsIff (first ++ second) (p ∨ q) :=
  ⟨List.mem_append.trans (or_congr hfirst.deaf hsecond.deaf),
    List.mem_append.trans (or_congr hfirst.transmit hsecond.transmit)⟩

theorem congr (h : TurnsIff effects p) (hpq : p ↔ q) : TurnsIff effects q := ⟨h.deaf.trans hpq, h.transmit.trans hpq⟩

theorem nil : TurnsIff [] False := ⟨by simp, by simp⟩

end TurnsIff

/-- The first slots are a valid package that asks the device `uid` for an answer. -/
structure Notice.AsksFor (uid : Uid) (slots : List UInt8) (n : Notice) : Prop where
  ok : n.status = .ok
  package : n.kind = .package
  expected : Frame.expectsResponse (slots.take n.size) = true
  addressed : (Frame.destination (slots.take n.size)).addresses uid = true

theorem Notice.asksFor_append {uid : Uid} {slots more : List UInt8} {n : Notice} (hsize : n.size ≤ slots.length) :
    n.AsksFor uid (slots ++ more) ↔ n.AsksFor uid slots := by
  have htake : (slots ++ more).take n.size = slots.take n.size := List.take_append_of_le_length hsize
  exact ⟨fun h => ⟨h.ok, h.package, htake ▸ h.expected, htake ▸ h.addressed⟩,
    fun h => ⟨h.ok, h.package, htake.symm ▸ h.expected, htake.symm ▸ h.addressed⟩⟩

namespace Bus

variable {b : Bus} {p c : List UInt8} {g : Nat} {n : Notice} {uid : Uid}

/-! ### The end of a reception -/

private theorem turnsIff_finish (status : Status) (kind : FrameKind) (size now : Nat) :
    TurnsIff (b.finish status kind size now).1 False := by
  unfold finish
  cases b.awaiting <;> exact ⟨by simp, by simp⟩

theorem isOwnRequest_iff (hmode : b.mode = .responder uid) (size : Nat) :
    b.isOwnRequest size = true ↔ Frame.expectsResponse (b.frame.take size) = true ∧
      (Frame.destination (b.frame.take size)).addresses uid = true := by
  unfold isOwnRequest
  rw [hmode]
  exact Bool.and_eq_true_iff

private theorem turnsIff_finishPackage (hmode : b.mode = .responder uid) (size now : Nat) :
    TurnsIff (b.finishPackage size now).1 (packageStatus (b.frame.take size) = .ok ∧ b.isOwnRequest size = true) := by
  have hfinished := turnsIff_finish (b := b) (packageStatus (b.frame.take size)) .package size now
  have hstays : b.mode ≠ .controller := by rw [hmode]; exact nofun
  unfold finishPackage
  dsimp only
  split
  · rename_i hturns
    have hturned : TurnsIff [.disableRx, .turn .transmit] True := ⟨by simp, by simp⟩
    have hown : packageStatus (b.frame.take size) = .ok ∧ b.isOwnRequest size = true := hturns.resolve_left hstays
    exact (hfinished.append hturned).congr ⟨fun _ => hown, fun _ => .inr trivial⟩
  · rename_i hkept
    exact hfinished.congr ⟨False.elim, fun h => hkept (.inr h)⟩

/-- The bus turns around as soon as the slots that were collected begin with a request that it has to answer. -/
private theorem Collected.turnsIff_conclude (h : Collected g p b) (hg : g ≤ maxFrameSize)
    (hmode : b.mode = .responder uid) (now : Nat) :
    TurnsIff (b.conclude false now).1 (∃ n, expectedNotice p g = some n ∧ n.AsksFor uid p) := by
  cases hexpected : expectedNotice p g with
  | none =>
    obtain ⟨-, hquiet⟩ | ⟨n, htold, -⟩ := h.conclude hg now
    · rw [hquiet]
      exact TurnsIff.nil.congr (by simp)
    · rw [hexpected] at htold
      cases htold
  | some n =>
    rw [Bus.conclude, h.afterBreak, h.guess, h.cursor, h.slots]
    rcases expectedNotice_eq_some_iff.1 hexpected with ⟨length, hhead, hlength, hle, rfl⟩ |
      ⟨startCode, hhead, hstart, hle, rfl⟩
    · simp only [classify_package hhead hlength hle]
      refine (turnsIff_finishPackage hmode _ now).congr ?_
      rw [isOwnRequest_iff hmode, h.take hle]
      constructor
      · rintro ⟨hok, hexpected, haddressed⟩
        exact ⟨_, rfl, hok, rfl, hexpected, haddressed⟩
      · rintro ⟨n, hn, hasks⟩
        obtain rfl := Option.some.inj hn
        exact ⟨hasks.ok, hasks.expected, hasks.addressed⟩
    · simp only [classify_levels hhead hstart hle, Bool.false_eq_true, ↓reduceIte]
      refine (turnsIff_finish _ _ _ now).congr ⟨False.elim, ?_⟩
      rintro ⟨n, hn, hasks⟩
      obtain rfl := Option.some.inj hn
      cases hasks.package

/-! ### Whole receptions -/

private theorem size_le_of_expectedNotice (h : expectedNotice p g = some n) : n.size ≤ p.length := by
  rcases expectedNotice_eq_some_iff.1 h with ⟨length, -, -, hle, rfl⟩ | ⟨startCode, -, -, hle, rfl⟩
  · exact hle
  · exact hle

private theorem Pending.turnsIff_receiveAll {chunks : List (List UInt8 × Nat)} (h : Pending g p b)
    (hg : g ≤ maxFrameSize) (hmode : b.mode = .responder uid) (hfits : (p ++ slotsOf chunks).length ≤ maxFrameSize) :
    TurnsIff (b.receiveAll chunks).1
      (∃ n, expectedNotice (p ++ slotsOf chunks) g = some n ∧ n.AsksFor uid (p ++ slotsOf chunks)) := by
  induction chunks generalizing p b with
  | nil =>
    rw [slotsOf, List.flatMap_nil, List.append_nil, h.untold]
    exact TurnsIff.nil.congr (by simp)
  | cons chunk rest ih =>
    obtain ⟨c, now⟩ := chunk
    rw [slotsOf_cons, ← List.append_assoc] at hfits ⊢
    have hfirst : (p ++ c).length ≤ maxFrameSize := by
      rw [List.length_append] at hfits
      omega
    have hnow : TurnsIff (b.receive c now).1 (∃ n, expectedNotice (p ++ c) g = some n ∧ n.AsksFor uid (p ++ c)) := by
      rw [h.gathered.receive hfirst now]
      exact (h.advance hfirst).turnsIff_conclude hg hmode now
    rw [Bus.receiveAll]
    dsimp only
    rcases h.receive (c := c) hg hfirst now with ⟨hnone, -, hnext⟩ | ⟨n, hn, -, hnext⟩
    · -- The reception goes on, so all depends on the rest of the chunks.
      refine (hnow.append (ih hnext ((mode_handle _ _ _).trans hmode) hfits)).congr ?_
      rw [hnone]
      simp
    · -- The reception is over, so the rest of the chunks is of no effect.
      obtain ⟨hquiet, -⟩ := hnext.receiveAll hfits
      rw [hquiet, List.append_nil]
      refine hnow.congr ?_
      rw [hn, expectedNotice_append hn]
      simp only [Option.some.injEq, exists_eq_left', Notice.asksFor_append (size_le_of_expectedNotice hn)]

/-- After a break, from any state that can be reached, the slots turn the bus of a responder around if they begin with
a valid package that asks it for an answer, and only then. -/
theorem turnsIff_of_chunks (hb : b.Reachable) (hmode : b.mode = .responder uid) (breakAt : Nat)
    (chunks : List (List UInt8 × Nat)) (hfits : (slotsOf chunks).length ≤ maxFrameSize) :
    TurnsIff ((b.handle .break breakAt).1 ++ ((b.handle .break breakAt).2.receiveAll chunks).1)
      (∃ n, expectedNotice (slotsOf chunks) (b.handle .break breakAt).2.sizeGuess = some n ∧
        n.AsksFor uid (slotsOf chunks)) := by
  have hbreak : TurnsIff (b.handle .break breakAt).1 False := ⟨by simp [handle, onBreak], by simp [handle, onBreak]⟩
  have hpending : Pending (b.handle .break breakAt).2.sizeGuess [] (b.handle .break breakAt).2 :=
    pending_onBreak hb.bounded
  have hslots := hpending.turnsIff_receiveAll (hb.bounded.handle .break breakAt).guess_le
    ((mode_handle _ _ _).trans hmode) hfits
  rw [List.nil_append] at hslots
  exact (hbreak.append hslots).congr (by simp)

/-! ### Packages -/

variable {frame : List UInt8} {chunks : List (List UInt8 × Nat)}

/-- Whatever size is expected of other frames, the bus looks at a whole package once. -/
private theorem turnsIff_of_package (hb : b.Reachable) (hmode : b.mode = .responder uid) (breakAt : Nat)
    (package : Package) (hchunks : slotsOf chunks = package.frame) :
    TurnsIff ((b.handle .break breakAt).1 ++ ((b.handle .break breakAt).2.receiveAll chunks).1)
      (Frame.expectsResponse package.frame = true ∧ (Frame.destination package.frame).addresses uid = true) := by
  have hfits : (slotsOf chunks).length ≤ maxFrameSize := by
    have hle := package.length_frame_le
    rw [maxPackageSize] at hle
    rw [hchunks, maxFrameSize]
    omega
  refine (turnsIff_of_chunks hb hmode breakAt chunks hfits).congr ?_
  rw [hchunks, expectedNotice_frame]
  constructor
  · rintro ⟨n, hn, hasks⟩
    obtain rfl := Option.some.inj hn
    have hexpected := hasks.expected
    have haddressed := hasks.addressed
    rw [List.take_length] at hexpected haddressed
    exact ⟨hexpected, haddressed⟩
  · rintro ⟨hexpected, haddressed⟩
    refine ⟨_, rfl, rfl, rfl, ?_, ?_⟩
    · rw [List.take_length, hexpected]
    · rw [List.take_length, haddressed]

end Bus

/-- A device answers only what goes to it and expects a response. -/
theorem Answer.Permitted.expected {answer : Answer} {request : Request} {uid : Uid} (h : answer.Permitted request uid)
    (hspeaks : answer ≠ .silent) : request.destination.addresses uid = true ∧ request.expectsResponse = true := by
  cases answer with
  | response response =>
    rw [Request.expectsResponse, h.1]
    exact ⟨beq_self_eq_true uid, rfl⟩
  | here other =>
    rw [Request.expectsResponse, h.1, Bool.or_true]
    exact ⟨h.2, rfl⟩
  | silent => exact absurd rfl hspeaks

namespace Bus

/-- Single slots of a frame tell what the package says that is read from it.  A bus turns around for the requests that
go to it and expect a response, and so for all that a device with its identifier answers. -/
theorem views_agree (frame : List UInt8) :
    (∀ request, Package.ofFrameUnchecked? frame = .ok (.request request) →
      Frame.isRequest frame = true ∧ Frame.isResponse frame = false ∧
        Frame.expectsResponse frame = request.expectsResponse ∧ Frame.isBranchProbe frame = request.isBranchProbe) ∧
    (∀ response, Package.ofFrameUnchecked? frame = .ok (.response response) →
      Frame.isRequest frame = false ∧ Frame.isResponse frame = true ∧ Frame.expectsResponse frame = false ∧
        Frame.isBranchProbe frame = false) ∧
    ∀ package, Package.ofFrameUnchecked? frame = .ok package → checksumValid frame = true →
      ∀ (uid : Uid) (b : Bus), b.Reachable → b.mode = .responder uid →
      ∀ (breakAt : Nat) (chunks : List (List UInt8 × Nat)), slotsOf chunks = frame →
      let start := b.handle .break breakAt
      let effects := start.1 ++ (start.2.receiveAll chunks).1
      (∀ response, package = .response response → TurnsIff effects False) ∧
      ∀ request, package = .request request →
        TurnsIff effects (request.destination.addresses uid = true ∧ request.expectsResponse = true) ∧
        ∀ {κ υ ε : Type} (app : Application κ υ ε) (device : Device κ) (memory : υ) (answer : Answer),
        device.state.uid = uid →
          (device.handle app request memory).1 = .ok answer → answer ≠ .silent →
          .disableRx ∈ effects ∧ .turn .transmit ∈ effects := by
  refine ⟨fun _ => Frame.view_of_request, fun _ => Frame.view_of_response, ?_⟩
  intro package hread hvalid uid b hb hmode breakAt chunks hchunks start effects
  obtain ⟨-, hframe⟩ := Package.frame_of_read hread hvalid
  have hturns := turnsIff_of_package hb hmode breakAt package (hchunks.trans hframe.symm)
  rw [hframe, (Frame.view_of_read hread).destination] at hturns
  constructor
  · rintro response rfl
    obtain ⟨-, -, hexpected, -⟩ := Frame.view_of_response hread
    exact hturns.congr (by simp [hexpected])
  · rintro request rfl
    obtain ⟨-, -, hexpected, -⟩ := Frame.view_of_request hread
    rw [hexpected] at hturns
    have hturns : TurnsIff effects (request.destination.addresses uid = true ∧ request.expectsResponse = true) :=
      hturns.congr and_comm
    refine ⟨hturns, fun {κ υ ε} app device memory answer huid hanswer hspeaks => ?_⟩
    have hexpected := (Device.permitted_handle app request device memory hanswer).expected hspeaks
    rw [huid] at hexpected
    exact ⟨hturns.deaf.2 hexpected, hturns.transmit.2 hexpected⟩

open Simulation in
/-- The application of the bare device answers a request, and the bus has turned around for it. -/
theorem views_agree_discoveryWish :
    let frame := (Package.request Device.discoveryWish).frame
    let start := (new (.responder ⟨0x05E0, 1⟩) .standard).handle .break 0
    let effects := start.1 ++ (start.2.receiveAll [(frame.take 2, 10), (frame.drop 2, 30)]).1
    (Device.bareDevice.handle Journal.application Device.discoveryWish (Device.inventive (Device.madeUp .ack))).1 =
        .ok (.response (Device.madeUp .ack)) ∧
      Frame.isRequest frame = true ∧ .disableRx ∈ effects ∧ .turn .transmit ∈ effects := by
  intro frame start effects
  have hread : Package.ofFrameUnchecked? frame = .ok (.request Device.discoveryWish) :=
    Package.ofFrameUnchecked?_eq_ok_iff.2 ⟨⟨by decide, by decide⟩, _, rfl, rfl⟩
  have hvalid : checksumValid frame = true := checksumValid_iff.2 ⟨_, rfl⟩
  have hanswer : (Device.bareDevice.handle Journal.application Device.discoveryWish
    (Device.inventive (Device.madeUp .ack))).1 =
      .ok (.response (Device.madeUp .ack)) := rfl
  have hchunks : slotsOf [(frame.take 2, 10), (frame.drop 2, 30)] = frame := by simp [slotsOf]
  obtain ⟨hrequest, -, hturns⟩ := views_agree frame
  obtain ⟨-, hown⟩ := hturns _ hread hvalid ⟨0x05E0, 1⟩ _ (.new (.responder ⟨0x05E0, 1⟩) .standard) rfl 0 _ hchunks
  obtain ⟨-, hdevice⟩ := hown _ rfl
  obtain ⟨hdeaf, htransmit⟩ := hdevice Journal.application Device.bareDevice _ _ rfl hanswer (fun h => by cases h)
  exact ⟨hanswer, (hrequest _ hread).1, hdeaf, htransmit⟩

end Bus

end LightBus
