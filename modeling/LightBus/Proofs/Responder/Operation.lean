import LightBus.Proofs.Dictionary.Calls
import LightBus.Proofs.Responder.Standard

/-!
# Devices in operation

A program sets a device up, lets it handle requests, and changes it in between (`Device.Operated`).  A parameter that
is defined stays defined, with everything but its rule (`Dictionary.keeps_performAll`).  So the parameters that every
device has stay, though the program may have given them other rules (`Device.Operated.standing`).
-/

namespace LightBus

variable {κ υ ε : Type}

/-! ### Calls -/

namespace Dictionary

variable {d d' d'' : Dictionary κ} {entry : Entry κ} {pid : ParameterId}

/-- What is defined stays defined.  Only its rule may become another. -/
def Keeps (d d' : Dictionary κ) : Prop :=
  ∀ pid definition, d.definition? pid = some definition → ∃ handler,
  d'.definition? pid = some { definition with handler }

namespace Keeps

theorem refl (d : Dictionary κ) : d.Keeps d := fun _ definition h => ⟨definition.handler, h⟩

theorem trans (h : d.Keeps d') (h' : d'.Keeps d'') : d.Keeps d'' := by
  intro pid definition hdefinition
  obtain ⟨handler, hkept⟩ := h pid definition hdefinition
  exact h' pid { definition with handler } hkept

private theorem of_entries (h : d'.entries = d.entries) : d.Keeps d' := by
  intro pid definition hdefinition
  refine ⟨definition.handler, ?_⟩
  rwa [definition?, entry?_of_entries h]

private theorem of_extends (h : d.Extends d' entry) : d.Keeps d' := by
  intro pid definition hdefinition
  obtain ⟨found, hentry, rfl⟩ := Option.map_eq_some_iff.1 hdefinition
  exact ⟨found.definition.handler, definition?_of_entry? (h.entry?_of_some hentry)⟩

private theorem of_updateEntry {change : Entry κ → Entry κ}
    (hchange : ∀ e, ∃ handler, (change e).definition = { e.definition with handler })
    (h : d.updateEntry pid change = .ok d') :
    d.Keeps d' := by
  unfold updateEntry at h
  split at h
  case isFalse => cases h
  obtain rfl := Except.ok.inj h
  intro other definition hdefinition
  obtain ⟨found, hentry, rfl⟩ := Option.map_eq_some_iff.1 hdefinition
  have hsame (e : Entry κ) : ∃ handler,
      (if e.definition.parameterId == pid then change e else e).definition = { e.definition with handler } := by
    split
    · exact hchange e
    · exact ⟨e.definition.handler, rfl⟩
  obtain ⟨handler, hfound⟩ := hsame found
  refine ⟨handler, ?_⟩
  rw [definition?, entry?_map (fun e => if e.definition.parameterId == pid then change e else e) _ rfl, hentry]
  · exact congrArg some hfound
  · intro e
    obtain ⟨handler, he⟩ := hsame e
    rw [he]

end Keeps

/-- No call takes a parameter away, and only one sets another rule. -/
private theorem keeps_perform (d : Dictionary κ) (call : Call κ) : d.Keeps (d.perform call) := by
  rcases d.perform_cases call with hsame | hperformed
  · rw [hsame]
    exact .refl d
  generalize d.perform call = d' at hperformed ⊢
  cases hperformed with
  | define hcall => exact .of_extends (extends_define hcall)
  | defineAlias hcall =>
    obtain ⟨_, _, hextends⟩ := extends_defineAlias hcall
    exact .of_extends hextends
  | defineComputed hcall => exact .of_extends (extends_defineComputed hcall)
  | @setHandler _ pid handler hcall =>
    refine .of_updateEntry ?_ hcall
    exact fun _ => ⟨handler, rfl⟩
  | setObserved hcall =>
    refine .of_updateEntry ?_ hcall
    exact fun e => ⟨e.definition.handler, rfl⟩
  | set pid data => exact .of_entries (d.set_frame pid data).1
  | setAndQueue pid data => exact .of_entries ((d.setAndQueue_frame pid data).1.trans (d.set_frame pid data).1)
  | popQueued => exact .of_entries d.entries_popQueued

theorem keeps_performAll (d : Dictionary κ) (calls : List (Call κ)) : d.Keeps (d.performAll calls) := by
  induction calls generalizing d with
  | nil => exact .refl d
  | cons call calls ih => exact (d.keeps_perform call).trans (ih (d.perform call))

end Dictionary

/-! ### Devices -/

/-- The parameters were changed by calls, and the device still has an identifier that a device may have. -/
structure Device.Changes (device after : Device κ) : Prop where
  parameters : ∃ calls, after.parameters = device.parameters.performAll calls
  uid (h : device.state.uid.device ≠ 0xFFFFFFFF) : after.state.uid.device ≠ 0xFFFFFFFF

/-- Rules of the device's own and the application change the device no further than that. -/
structure Application.ByCalls (app : Application κ υ ε) : Prop where
  rules (device : Device κ) (rule : κ) (request : Request) : device.Changes (app.rules rule device request).2
  others (device : Device κ) (request : Request) (memory : υ) : device.Changes (app.others request device memory).2.1

theorem Application.byCalls_idle : idle.ByCalls := ⟨nofun, fun _ _ _ => ⟨⟨[], rfl⟩, id⟩⟩

namespace Device

variable {device after : Device κ} {app : Application κ υ ε}

/-- A device that was set up, and has since handled requests and been changed by the program. -/
inductive Operated (app : Application κ υ ε) : Device κ → Prop
  | created {device : Device κ} {config : DeviceConfig} {arena : List UInt8} (h : create? config arena = .ok device)
    (huid : config.uid.device ≠ 0xFFFFFFFF) : Operated app device
  | request {device : Device κ} (h : Operated app device) (request : Request) (memory : υ) :
    Operated app (device.handle app request memory).2.1
  | changed {device after : Device κ} (h : Operated app device) (hchanges : device.Changes after) : Operated app after

/-- The parameters that every device has are there, each with some rule. -/
structure Standing (device : Device κ) : Prop where
  parameters {entry : Entry κ} (h : entry ∈ (standardEntries : List (Entry κ))) :
    ∃ handler, device.parameters.definition? entry.definition.parameterId = some { entry.definition with handler }
  uid : device.state.uid.device ≠ 0xFFFFFFFF

namespace Standing

private theorem of_keeps (h : device.Standing) (hkeeps : device.parameters.Keeps after.parameters)
    (huid : after.state.uid.device ≠ 0xFFFFFFFF) : after.Standing := by
  refine ⟨fun {entry} hentry => ?_, huid⟩
  obtain ⟨handler, hknown⟩ := h.parameters hentry
  obtain ⟨later, hkept⟩ := hkeeps _ _ hknown
  exact ⟨later, hkept⟩

/-- A parameter that the rule still answers which it had in the beginning is as in the beginning. -/
theorem definition?_of_rule {entry : Entry κ} (h : device.Standing)
    (hentry : entry ∈ (standardEntries : List (Entry κ)))
    (hrule : (device.parameters.definition? entry.definition.parameterId).map Definition.handler =
      some entry.definition.handler) :
    device.parameters.definition? entry.definition.parameterId = some entry.definition := by
  obtain ⟨handler, hknown⟩ := h.parameters hentry
  rw [hknown] at hrule
  obtain rfl : handler = entry.definition.handler := Option.some.inj hrule
  exact hknown

theorem change (h : device.Standing) (hchanges : device.Changes after) : after.Standing := by
  obtain ⟨⟨calls, hcalls⟩, huid⟩ := hchanges
  refine h.of_keeps ?_ (huid h.uid)
  rw [hcalls]
  exact device.parameters.keeps_performAll calls

private theorem keptByRules (happ : app.ByCalls) : KeptByRules app.rules Standing where
  set pid native h := h.of_keeps (.of_entries (Dictionary.set_frame _ pid native).1) h.uid
  popQueued h := h.of_keeps (.of_entries (Dictionary.entries_popQueued _)) h.uid
  fetchedMute {device} _ _ request h _ _ _ := by
    obtain ⟨hparameters, huid⟩ := device.state_answerMute (queuedRequest request _)
    exact h.of_keeps (.of_entries (congrArg Dictionary.entries hparameters)) (huid ▸ h.uid)
  custom {device} rule request h := h.change (happ.rules device rule request)

/-- A request takes none of the parameters away. -/
private theorem handle (happ : app.ByCalls) (h : device.Standing) (request : Request) (memory : υ) :
    (device.handle app request memory).2.1.Standing := by
  refine (keptByRules happ).handle (fun {device} request memory h => h.change (happ.others device request memory)) h
    (fun _ _ _ _ _ => ?_) memory
  obtain ⟨hparameters, huid⟩ := device.state_answerMute request
  exact h.of_keeps (.of_entries (congrArg Dictionary.entries hparameters)) (huid ▸ h.uid)

end Standing

private theorem standing_create? {config : DeviceConfig} {arena : List UInt8} (h : create? config arena = .ok device)
    (huid : config.uid.device ≠ 0xFFFFFFFF) : device.Standing := by
  refine ⟨fun {entry} hentry => ?_, ?_⟩
  · rw [parameters_create? h]
    simp only [standardEntries, List.mem_cons, List.not_mem_nil, or_false] at hentry
    rcases hentry with rfl | rfl | rfl | rfl | rfl | rfl | rfl | rfl | rfl | rfl | rfl
    all_goals exact ⟨_, rfl⟩
  · rw [(create?_spec h).2]
    exact huid

/-- Whatever the program does, the device has the parameters that every device has. -/
theorem Operated.standing (happ : app.ByCalls) (h : device.Operated app) : device.Standing := by
  induction h with
  | created h huid => exact standing_create? h huid
  | request _ request memory ih => exact ih.handle happ request memory
  | changed _ hchanges ih => exact ih.change hchanges

end Device

end LightBus
