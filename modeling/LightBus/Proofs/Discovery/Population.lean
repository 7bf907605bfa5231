import LightBus.Proofs.Discovery.Devices
import LightBus.Simulation.Population

/-!
# Simulated devices as a bus

Devices in memory that lose no request make up a lossy bus, whatever names they use in their answers to probes
(`Population.lossyBus`), and an ideal bus if they use their own (`Population.idealBus`).
-/

namespace LightBus.Simulation

/-- Nothing that the device receives is lost on it.  In answers to probes it uses the name that `names` gives it. -/
structure Resident.Sound (names : Uid → Uid) (r : Resident) : Prop where
  named : r.answersAs = names r.uid
  lies : r.liesAt = r.uid
  lostMutes : r.lostMutes = 0
  lostProbes : r.lostProbes = 0
  obeys : r.unmutable = false
  binding : r.binding = none
  wrongReply : r.wrongReply = none
  silent : r.silent = false

/-- The device that has just been switched on. -/
def Resident.fresh (names : Uid → Uid) (uid : Uid) : Resident where
  uid := uid
  answersAs := names uid
  liesAt := uid
  muted := false
  lostMutes := 0
  lostProbes := 0
  unmutable := false
  binding := none
  wrongReply := none
  silent := false

private theorem Resident.sound_fresh (names : Uid → Uid) (uid : Uid) : (fresh names uid).Sound names :=
  ⟨rfl, rfl, rfl, rfl, rfl, rfl, rfl, rfl⟩

namespace Population

variable {ε : Type} {names : Uid → Uid} {P M M' : Finset Uid} {p : Population ε} {b : Branch} {uid : Uid}
  {residents : List Resident}

/-- The population works, its devices are `P`, and `M` of them are muted. -/
structure Holds (names : Uid → Uid) (P M : Finset Uid) (p : Population ε) : Prop where
  working : p.failure = none
  sound : ∀ r ∈ p.residents, r.Sound names
  nodup : (p.residents.map Resident.uid).Nodup
  devices : ∀ uid, uid ∈ P ↔ uid ∈ p.residents.map Resident.uid
  muted : ∀ r ∈ p.residents, r.muted = true ↔ r.uid ∈ M

/-- A population of devices that were just switched on. -/
def fresh (names : Uid → Uid) (uids : List Uid) : Population ε := ⟨uids.map (Resident.fresh names), 0, [], none⟩

theorem holds_fresh (names : Uid → Uid) {uids : List Uid} (h : uids.Nodup) :
    (fresh names uids : Population ε).Holds names uids.toFinset ∅ := by
  have hmap : (uids.map (Resident.fresh names)).map Resident.uid = uids := by
    rw [List.map_map]
    exact List.map_id uids
  refine ⟨rfl, fun r hr => ?_, hmap.symm ▸ h, fun uid => ?_, fun r hr => ?_⟩
  · obtain ⟨uid, -, rfl⟩ := List.mem_map.1 hr
    exact Resident.sound_fresh names uid
  · show uid ∈ uids.toFinset ↔ uid ∈ (uids.map (Resident.fresh names)).map Resident.uid
    rw [hmap, List.mem_toFinset]
  · obtain ⟨uid, -, rfl⟩ := List.mem_map.1 hr
    exact ⟨nofun, fun h => absurd h (Finset.notMem_empty _)⟩

/-- A change of the devices that only mutes or un-mutes them. -/
private theorem Holds.update {p' : Population ε} {f : Resident → Bool} (h : p.Holds names P M)
    (hw : p'.failure = none) (hp : p'.residents = p.residents.map fun r => { r with muted := f r })
    (hf : ∀ r ∈ p.residents, f r = true ↔ r.uid ∈ M') : p'.Holds names P M' := by
  have hmap : p'.residents.map Resident.uid = p.residents.map Resident.uid := by
    rw [hp, List.map_map]
    rfl
  refine ⟨hw, fun r hr => ?_, hmap ▸ h.nodup, fun uid => hmap ▸ h.devices uid, fun r hr => ?_⟩
  · rw [hp] at hr
    obtain ⟨d, hd, rfl⟩ := List.mem_map.1 hr
    obtain ⟨named, lies, lostMutes, lostProbes, obeys, binding, wrongReply, silent⟩ := h.sound d hd
    exact ⟨named, lies, lostMutes, lostProbes, obeys, binding, wrongReply, silent⟩
  · rw [hp] at hr
    obtain ⟨d, hd, rfl⟩ := List.mem_map.1 hr
    exact hf d hd

/-- A change that leaves the devices alone. -/
private theorem Holds.frame {p' : Population ε} (h : p.Holds names P M) (hw : p'.failure = none)
    (hp : p'.residents = p.residents) : p'.Holds names P M :=
  ⟨hw, hp ▸ h.sound, hp ▸ h.nodup, hp ▸ h.devices, hp ▸ h.muted⟩

/-! ### Requests to all devices -/

private theorem record_run (h : p.failure = none) (inquiry : Inquiry) :
    (record inquiry).runFrom p = (.ok (), { p with count := p.count + 1, log := inquiry :: p.log }) := by
  obtain ⟨residents, count, log, failure⟩ := p
  obtain rfl : failure = none := h
  rfl

private theorem runFrom_onResidents {α : Type} (f : List Resident → Except (LinkError ε) α × List Resident)
    (p : Population ε) : (onResidents f).runFrom p = ((f p.residents).1, { p with residents := (f p.residents).2 }) :=
  rfl

private theorem unMute_run {r : Request} (hr : r.IsUnMute) (h : p.Holds names P M) :
    ∃ p', (link.request r).runFrom p = (.ok none, p') ∧ p'.Holds names P ∅ := by
  have hparameter := hr.1.parameterId
  let p' : Population ε :=
    ⟨p.residents.map fun d => { d with muted := false }, p.count + 1, .unMute :: p.log, p.failure⟩
  refine ⟨p', ?_, h.update (f := fun _ => false) h.working rfl fun r _ => ?_⟩
  · simp only [link, request, hparameter, ↓reduceIte, Run.runFrom_bind, record_run h.working, runFrom_onResidents, p']
  · exact ⟨nofun, fun hu => absurd hu (Finset.notMem_empty _)⟩

/-! ### Mute requests -/

private theorem muteData_of_sound {r : Resident} (h : r.Sound names) : r.muteData = MuteReply.plain.payload := by
  rw [Resident.muteData, h.wrongReply, h.binding]
  rfl

/-- The device with the identifier is muted and answers. -/
private theorem muteFirst_of_mem (request : Request) (hsound : ∀ r ∈ residents, r.Sound names)
    (hnodup : (residents.map Resident.uid).Nodup) (hu : uid ∈ residents.map Resident.uid) :
    muteFirst (ε := ε) request uid residents =
      (.ok (some (request.reply uid .ack MuteReply.plain.payload 0)),
        residents.map fun r => { r with muted := r.muted || r.uid == uid }) := by
  induction residents with
  | nil => exact nomatch hu
  | cons r rest ih =>
    have hr := hsound r List.mem_cons_self
    rw [List.map_cons, List.nodup_cons] at hnodup
    by_cases heq : r.uid = uid
    · -- no other device has the identifier
      have hrest : rest.map (fun r => { r with muted := r.muted || r.uid == uid }) = rest := by
        refine (List.map_congr_left fun d hd => ?_).trans (List.map_id rest)
        have hne : d.uid ≠ uid := fun h => hnodup.1 (heq.symm ▸ h ▸ List.mem_map_of_mem hd)
        rw [beq_false_of_ne hne, Bool.or_false]
        rfl
      rw [muteFirst, List.map_cons, hrest]
      simp [heq, hr.lostMutes, hr.silent, hr.obeys, muteData_of_sound hr]
    · have hu : uid ∈ rest.map Resident.uid := by
        rw [List.map_cons, List.mem_cons] at hu
        exact hu.resolve_left (Ne.symm heq)
      rw [muteFirst, ih (fun d hd => hsound d (List.mem_cons_of_mem _ hd)) hnodup.2 hu]
      simp [heq, beq_false_of_ne heq]

/-- Nobody answers for a device that is not there. -/
private theorem muteFirst_of_not_mem (request : Request) (hu : uid ∉ residents.map Resident.uid) :
    muteFirst (ε := ε) request uid residents = (.error .timeout, residents) := by
  induction residents with
  | nil => rfl
  | cons r rest ih =>
    rw [List.map_cons, List.mem_cons, not_or] at hu
    rw [muteFirst, ih hu.2]
    simp [Ne.symm hu.1]

private theorem request_of_isMute {r : Request} (hr : r.IsMute uid) (h : p.failure = none) :
    (link.request r).runFrom p = ((muteFirst r uid p.residents).1, { p with
      residents := (muteFirst (ε := ε) r uid p.residents).2
      count := p.count + 1
      log := .mute uid :: p.log }) := by
  obtain ⟨⟨-, hparameter, hdest, -⟩, -⟩ := hr
  have hne : ¬ParameterId.discMute = .discUnMute := nofun
  simp only [link, request, hparameter, hdest, hne, Address.uid, ↓reduceIte, Run.runFrom_bind, record_run h,
    runFrom_onResidents]

private theorem mute_run_of_mem {r : Request} (hr : r.IsMute uid) (hu : uid ∈ P) (h : p.Holds names P M) :
    ∃ response reply p', (link.request r).runFrom p = (.ok (some response), p') ∧ response.Acknowledges r reply ∧
      reply.binding = none ∧ p'.Holds names P (insert uid M) := by
  let p' : Population ε :=
    ⟨p.residents.map fun d => { d with muted := d.muted || d.uid == uid }, p.count + 1, .mute uid :: p.log, p.failure⟩
  refine ⟨r.reply uid .ack MuteReply.plain.payload 0, .plain, p', ?_, ⟨rfl, rfl, rfl, rfl⟩, rfl, ?_⟩
  · rw [request_of_isMute hr h.working, muteFirst_of_mem r h.sound h.nodup ((h.devices uid).1 hu)]
  · refine h.update (f := fun d => d.muted || d.uid == uid) h.working rfl fun d hd => ?_
    rw [Bool.or_eq_true, h.muted d hd, beq_iff_eq, Finset.mem_insert, or_comm]

private theorem mute_run_of_not_mem {r : Request} (hr : r.IsMute uid) (hu : uid ∉ P) (h : p.Holds names P M) :
    ∃ p', (link.request r).runFrom p = (.error .timeout, p') ∧ p'.Holds names P M := by
  have hout : uid ∉ p.residents.map Resident.uid := fun hin => hu ((h.devices uid).2 hin)
  rw [request_of_isMute hr h.working, muteFirst_of_not_mem r hout]
  exact ⟨_, rfl, h.frame h.working rfl⟩

/-! ### Branch probes -/

/-- What a probe brings if exactly these devices answer. -/
def answerOf (names : Uid → Uid) : List Uid → ProbeResult
  | [] => .nobody
  | [uid] => .found (names uid)
  | _ => .collision

/-- The devices of the branch that are awake answer, and nothing changes. -/
private theorem probeAll_eq (b : Branch) (hsound : ∀ r ∈ residents, r.Sound names) :
    probeAll b residents =
      (answerOf names ((residents.filter fun r => !r.muted && b.contains r.uid).map Resident.uid), residents) := by
  have honProbe : residents.map (Resident.onProbe b) =
      residents.map fun r => (!r.muted && b.contains r.uid, r) := by
    refine List.map_congr_left fun r hr => ?_
    rw [Resident.onProbe, (hsound r hr).lies, (hsound r hr).lostProbes]
    cases r.muted <;> cases b.contains r.uid <;> rfl
  have hall : (residents.map fun r => (!r.muted && b.contains r.uid, r)).map Prod.snd = residents := by
    rw [List.map_map]
    exact List.map_id residents
  have hawake : (residents.map fun r => (!r.muted && b.contains r.uid, r)).filter Prod.fst =
      (residents.filter fun r => !r.muted && b.contains r.uid).map
        fun r => (!r.muted && b.contains r.uid, r) := by
    rw [List.filter_map]
    rfl
  rw [probeAll, honProbe, hall, hawake]
  congr 1
  cases hfilter : residents.filter fun r => !r.muted && b.contains r.uid with
  | nil => rfl
  | cons r rest =>
    have hr : r ∈ residents := (List.mem_filter.1 (hfilter ▸ List.mem_cons_self)).1
    cases rest with
    | nil => exact congrArg ProbeResult.found (hsound r hr).named
    | cons d others => rfl

private theorem probe_run {r : Request} (hr : r.IsProbe b) (h : p.Holds names P M) :
    ∃ devices p', (link.probe r).runFrom p = (.ok (answerOf names devices), p') ∧ devices.Nodup ∧
      devices.toFinset = awake P M b ∧ p'.Holds names P M := by
  obtain ⟨-, hbytes⟩ := hr
  let p' : Population ε := ⟨p.residents, p.count + 1, .probe b :: p.log, p.failure⟩
  refine ⟨(p.residents.filter fun r => !r.muted && b.contains r.uid).map Resident.uid, p', ?_, ?_, ?_,
    h.frame h.working rfl⟩
  · simp only [link, probe, hbytes, Option.getD_some, Run.runFrom_bind, record_run h.working, runFrom_onResidents,
      probeAll_eq b h.sound, p']
  · exact h.nodup.sublist (List.filter_sublist.map _)
  · ext uid
    rw [List.mem_toFinset, List.mem_map, mem_awake, h.devices, List.mem_map]
    constructor
    · rintro ⟨d, hd, rfl⟩
      obtain ⟨hd, hawake⟩ := List.mem_filter.1 hd
      rw [Bool.and_eq_true, Bool.not_eq_true', ← Bool.not_eq_true, h.muted d hd] at hawake
      exact ⟨⟨d, hd, rfl⟩, hawake⟩
    · rintro ⟨⟨d, hd, rfl⟩, hawake⟩
      refine ⟨d, List.mem_filter.2 ⟨hd, ?_⟩, rfl⟩
      rwa [Bool.and_eq_true, Bool.not_eq_true', ← Bool.not_eq_true, h.muted d hd]

/-! ### The bus -/

private theorem mutingBus (names : Uid → Uid) (P : Finset Uid) :
    MutingBus (link (ε := ε)) P fun _ p M => p.Holds names P M where
  unMute := unMute_run
  mute_mem := mute_run_of_mem

/-- Wrong names in the answers only garble them. -/
theorem lossyBus (names : Uid → Uid) (P : Finset Uid) :
    LossyBus (link (ε := ε)) P fun _ p M => p.Holds names P M where
  toMutingBus := mutingBus names P
  mute_not_mem uid hu r p M hr h := by
    obtain ⟨p', hp', h'⟩ := mute_run_of_not_mem hr hu h
    exact ⟨_, p', hp', (fun e he => by cases he), (fun response reply he => by cases he), h'⟩
  probe hr h := by
    obtain ⟨devices, p', hp', -, hawake, h'⟩ := probe_run hr h
    refine ⟨_, p', hp', fun hnobody => ?_, h'⟩
    cases devices with
    | nil => exact hawake.symm
    | cons uid rest => cases rest <;> cases hnobody

/-- Devices that use their own names are described by their answers. -/
theorem idealBus (P : Finset Uid) : IdealBus (link (ε := ε)) P fun _ p M => p.Holds id P M where
  toMutingBus := mutingBus id P
  mute_not_mem hr hu _ := mute_run_of_not_mem hr hu
  probe hr h := by
    obtain ⟨devices, p', hp', hnodup, hawake, h'⟩ := probe_run hr h
    refine ⟨_, p', hp', ?_, h'⟩
    rw [← hawake]
    match devices with
    | [] => rfl
    | [uid] => rfl
    | uid :: other :: rest =>
      show 1 < (uid :: other :: rest).toFinset.card
      rw [List.toFinset_card_of_nodup hnodup, List.length_cons, List.length_cons]
      omega

end Population

end LightBus.Simulation
