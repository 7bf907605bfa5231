import LightBus.Proofs.Dictionary.Reachable
import LightBus.Proofs.Responder.Rules

/-!
# Devices that a program can run

A program sets a device up, changes its parameters by the calls of the dictionary and its state as it likes, and lets
it handle requests.  Rules and applications of its own can do no more than that (`Application.Lawful`), so that
devices stay `Device.Reachable` (`Device.reachable_create?`, `Device.reachable_handle`).
-/

namespace LightBus

variable {κ υ ε : Type}

/-- The parameters were built by calls, and the identifier is that of a device. -/
structure Device.Reachable (device : Device κ) : Prop where
  parameters : device.parameters.Reachable
  uid : device.state.uid.device ≠ 0xFFFFFFFF

/-- Rules and application change a device by calls only. -/
structure Application.Lawful (app : Application κ υ ε) : Prop where
  rules {device : Device κ} (rule : κ) (request : Request) (h : device.Reachable) :
    (app.rules rule device request).2.Reachable
  others {device : Device κ} (request : Request) (memory : υ) (h : device.Reachable) :
    (app.others request device memory).2.1.Reachable

/-- Rules and application leave the identifier as it is. -/
structure Application.KeepsUid (app : Application κ υ ε) : Prop where
  rules (device : Device κ) (rule : κ) (request : Request) : (app.rules rule device request).2.state.uid =
    device.state.uid
  others (device : Device κ) (request : Request) (memory : υ) :
    (app.others request device memory).2.1.state.uid = device.state.uid

/-- An application that has no rules and remembers nothing.  It refuses what is not in the dictionary. -/
def Application.idle : Application Empty Unit Empty where
  rules := nofun
  others := fun _ device memory => (.ok (.nack .unknownPid), device, memory)
  levels := fun _ device memory => (.ok (), device, memory)
  observe := fun _ _ _ memory => memory

theorem Application.lawful_idle : idle.Lawful := ⟨nofun, fun _ _ h => h⟩

theorem Application.keepsUid_idle : idle.KeepsUid := ⟨nofun, fun _ _ _ => rfl⟩

namespace Device

variable {device : Device κ} {app : Application κ υ ε}

theorem state_answerMute (device : Device κ) (request : Request) :
    (device.answerMute request).2.parameters = device.parameters ∧
      (device.answerMute request).2.state.uid = device.state.uid := by
  unfold answerMute
  split
  · exact ⟨rfl, rfl⟩
  · exact ⟨rfl, rfl⟩

private theorem Reachable.mute (h : device.Reachable) (request : Request) :
    (device.answerMute request).2.Reachable := by
  obtain ⟨hparameters, huid⟩ := device.state_answerMute request
  refine ⟨?_, ?_⟩
  · rw [hparameters]
    exact h.parameters
  · rw [huid]
    exact h.uid

private theorem keptByRules_reachable (happ : app.Lawful) : KeptByRules app.rules Reachable where
  set pid native h := ⟨h.parameters.set pid native, h.uid⟩
  popQueued h := ⟨h.parameters.popQueued, h.uid⟩
  fetchedMute _ h _ _ _ := h.mute _
  custom rule request h := happ.rules rule request h

theorem reachable_handle (happ : app.Lawful) (h : device.Reachable) (request : Request) (memory : υ) :
    (device.handle app request memory).2.1.Reachable :=
  (keptByRules_reachable happ).handle (fun request memory h => happ.others request memory h) h
    (fun _ _ _ _ _ => h.mute request) memory

theorem reachable_outcomeOf {request : Request} (happ : app.Lawful) (h : device.Reachable)
    (haddressed : request.destination.addresses device.state.uid = true) (memory : υ) :
    (outcomeOf app request device memory).2.1.Reachable := by
  rw [← after_handle_of_addressed app memory haddressed]
  exact reachable_handle happ h request memory

/-- No request changes the identifier. -/
theorem uid_handle (happ : app.KeepsUid) (device : Device κ) (request : Request) (memory : υ) :
    (device.handle app request memory).2.1.state.uid = device.state.uid := by
  have hrules : KeptByRules app.rules fun other => other.state.uid = device.state.uid := {
    set := fun _ _ h => h
    popQueued := fun h => h
    fetchedMute := fun {other} _ _ request h _ _ _ => ((other.state_answerMute _).2).trans h
    custom := fun {other} rule request h => (happ.rules other rule request).trans h }
  exact hrules.handle (fun {other} request memory h => (happ.others other request memory).trans h) rfl
    (fun _ _ _ _ _ => (device.state_answerMute request).2) memory

/-! ### Set-up -/

theorem exists_of_bind_eq_ok {δ α β : Type} {x : Except δ α} {next : α → Except δ β} {y : β}
    (h : (x >>= next) = .ok y) : ∃ a, x = .ok a ∧ next a = .ok y := by
  cases x with
  | error e => cases h
  | ok a => exact ⟨a, rfl, h⟩

/-- The rules of the parameters that every device has: discovery comes first, and nothing else mutes. -/
theorem standardParameters_spec {m : Metadata} {arena : List UInt8} {d : Dictionary κ}
    (h : standardParameters m (.empty arena) = .ok d) :
    d.Reachable ∧ (∀ entry ∈ d.entries.drop 3, entry.definition.handler ≠ .mute) ∧
      d.entries.take 3 = [⟨plainDefinition .discUniqueBranch .empty .discovery .notDefined .branchProbe,
        .computed, false⟩, ⟨plainDefinition .discMute .empty .discovery .notDefined .mute, .computed, false⟩,
        ⟨plainDefinition .discUnMute .empty .discovery .notDefined .mute, .computed, false⟩] := by
  unfold standardParameters at h
  obtain ⟨d1, h1, h⟩ := exists_of_bind_eq_ok h
  obtain ⟨d2, h2, h⟩ := exists_of_bind_eq_ok h
  obtain ⟨d3, h3, h⟩ := exists_of_bind_eq_ok h
  obtain ⟨d4, h4, h⟩ := exists_of_bind_eq_ok h
  obtain ⟨d5, h5, h⟩ := exists_of_bind_eq_ok h
  obtain ⟨d6, h6, h⟩ := exists_of_bind_eq_ok h
  obtain ⟨d7, h7, h⟩ := exists_of_bind_eq_ok h
  obtain ⟨d8, h8, h⟩ := exists_of_bind_eq_ok h
  obtain ⟨d9, h9, h⟩ := exists_of_bind_eq_ok h
  obtain ⟨d10, h10, h11⟩ := exists_of_bind_eq_ok h
  constructor
  · have hdiscovery := (((Dictionary.Reachable.empty arena).defineComputed h1).defineComputed h2).defineComputed h3
    have hcomputed := (((hdiscovery.defineComputed h4).defineComputed h5).defineComputed h6).defineComputed h7
    exact (((hcomputed.define h8).define h9).define h10).defineComputed h11
  · have hentries := (Dictionary.extends_defineComputed h11).entries
    rw [(Dictionary.extends_define h10).entries, (Dictionary.extends_define h9).entries,
      (Dictionary.extends_define h8).entries, (Dictionary.extends_defineComputed h7).entries,
      (Dictionary.extends_defineComputed h6).entries, (Dictionary.extends_defineComputed h5).entries,
      (Dictionary.extends_defineComputed h4).entries, (Dictionary.extends_defineComputed h3).entries,
      (Dictionary.extends_defineComputed h2).entries, (Dictionary.extends_defineComputed h1).entries] at hentries
    rw [hentries]
    refine ⟨?_, rfl⟩
    intro entry hentry hmute
    simp only [Dictionary.empty, List.nil_append, List.cons_append, List.drop_succ_cons, List.drop_zero,
      List.mem_cons, List.not_mem_nil, or_false] at hentry
    rcases hentry with rfl | rfl | rfl | rfl | rfl | rfl | rfl | rfl
    all_goals cases hmute

theorem create?_spec {config : DeviceConfig} {arena : List UInt8} (h : create? config arena = .ok device) :
    standardParameters config.metadata (.empty arena) = .ok device.parameters ∧
      device.state = ⟨config.uid, config.otherParameters, config.metadata, false⟩ := by
  unfold create? at h
  split at h
  · cases h
  split at h
  · cases h
  · rename_i parameters hparameters
    obtain rfl := Except.ok.inj h
    exact ⟨hparameters, rfl⟩

theorem reachable_create? {config : DeviceConfig} {arena : List UInt8} (huid : config.uid.device ≠ 0xFFFFFFFF)
    (h : create? config arena = .ok device) : device.Reachable := by
  obtain ⟨hparameters, hstate⟩ := create?_spec h
  refine ⟨(standardParameters_spec hparameters).1, ?_⟩
  rw [hstate]
  exact huid

end Device

end LightBus
