import LightBus.Proofs.Discovery.Population
import LightBus.Proofs.Discovery.Visit

/-!
# What a search finds

Every device is found, or it lies in a branch that is still pending (`Search.Covers`); on an ideal bus the devices
come in the order of their values, and those that were found lie below all pending branches (`Search.Ascending`).
When no branch is left, everything has been found.

* `Controller.discover_lossy`: on a lossy bus a search reports all devices and nobody else.
* `Controller.discover_ideal`: on an ideal bus it reports each device once, in ascending order.
-/

namespace LightBus

variable {σ ε : Type} {link : ControllerLink σ ε} {P M : Finset Uid} {R : Uid → σ → Finset Uid → Prop}
  {config : SearchConfig}

namespace Search

variable {s s' : Search σ} {b : Branch} {pending pending' rest : List Branch} {news : List Uid}

/-- The devices that were found are the muted ones, and each of the others lies in a pending branch. -/
structure Covers (R : Uid → σ → Finset Uid → Prop) (P : Finset Uid) (pending : List Branch) (s : Search σ) :
    Prop where
  sound : ∀ uid ∈ s.found, uid ∈ P
  muted : R s.controller.uid s.controller.link s.found.toFinset
  covered : ∀ uid ∈ P, uid ∉ s.found → ∃ b ∈ pending, b.contains uid = true

/-- The devices were found in the order of their values, and all pending branches are above them. -/
structure Ascending (R : Uid → σ → Finset Uid → Prop) (P : Finset Uid) (pending : List Branch) (s : Search σ) : Prop
    extends Covers R P pending s where
  sorted : s.found.Pairwise fun a b => a.value < b.value
  ahead : ∀ uid ∈ s.found, ∀ b ∈ pending, uid.value < b.lower

theorem covers_whole (hP : ∀ uid ∈ P, uid.Valid) (hf : s.found = []) (hR : R s.controller.uid s.controller.link ∅) :
    Covers R P [.whole] s := by
  refine ⟨by rw [hf]; exact nofun, by rwa [hf, List.toFinset_nil], fun uid hu _ => ?_⟩
  exact ⟨.whole, List.mem_singleton_self _, Branch.contains_iff.2 ⟨Nat.zero_le _, (hP uid hu).value_le⟩⟩

private theorem ascending_whole (hP : ∀ uid ∈ P, uid.Valid) (hf : s.found = [])
    (hR : R s.controller.uid s.controller.link ∅) :
    Ascending R P [.whole] s := by
  refine ⟨covers_whole hP hf hR, by rw [hf]; exact .nil, ?_⟩
  rw [hf]
  exact nofun

/-- Reports keep the invariant if every device that is still missing has a new place. -/
private theorem Covers.report (h : Covers R P pending s) (hnews : Reported R P s.found.toFinset news s s')
    (hplace : ∀ uid ∈ P, uid ∉ s'.found → ∀ b ∈ pending, b.contains uid = true →
      ∃ c ∈ pending', c.contains uid = true) : Covers R P pending' s' := by
  refine ⟨fun uid hu => ?_, ?_, fun uid hu hmissing => ?_⟩
  · rw [hnews.found, List.mem_append] at hu
    exact hu.elim (h.sound uid) (hnews.mem uid)
  · rw [hnews.found, List.toFinset_append]
    exact hnews.muted
  · have hold : uid ∉ s.found := fun hold => hmissing (by rw [hnews.found]; exact List.mem_append_left _ hold)
    obtain ⟨b, hb, hin⟩ := h.covered uid hu hold
    exact hplace uid hu hmissing b hb hin

/-- A split covers what the branch covered. -/
theorem Covers.split {lower upper : Branch} (h : Covers R P (b :: rest) s)
    (hnews : Reported R P s.found.toFinset news s s') (hsplit : b.split = some (lower, upper)) :
    Covers R P (lower :: upper :: rest) s' := by
  refine h.report hnews fun uid _ _ c hc hin => ?_
  rcases List.mem_cons.1 hc with rfl | hc
  · rcases (Branch.contains_of_split hsplit uid).1 hin with hin | hin
    · exact ⟨lower, List.mem_cons_self, hin⟩
    · exact ⟨upper, List.mem_cons_of_mem _ List.mem_cons_self, hin⟩
  · exact ⟨c, List.mem_cons_of_mem _ (List.mem_cons_of_mem _ hc), hin⟩

/-- A branch without a device that is awake can be given up. -/
theorem Covers.drop (h : Covers R P (b :: rest) s) (hnews : Reported R P s.found.toFinset news s s')
    (hawake : awake P (s.found.toFinset ∪ news.toFinset) b = ∅) : Covers R P rest s' := by
  refine h.report hnews fun uid hu hmissing c hc hin => ?_
  rcases List.mem_cons.1 hc with rfl | hc
  · rw [hnews.found, ← List.mem_toFinset, List.toFinset_append] at hmissing
    exact absurd (mem_awake.2 ⟨hu, hmissing, hin⟩) (by rw [hawake]; exact Finset.notMem_empty uid)
  · exact ⟨c, hc, hin⟩

/-- In the end everything has been found. -/
theorem Covers.mem_found (h : Covers R P [] s) (uid : Uid) : uid ∈ s.found ↔ uid ∈ P := by
  refine ⟨h.sound uid, fun hu => ?_⟩
  by_contra hmissing
  obtain ⟨b, hb, -⟩ := h.covered uid hu hmissing
  exact nomatch hb

theorem Covers.toFinset_found (h : Covers R P [] s) : s.found.toFinset = P :=
  Finset.ext fun uid => by rw [List.mem_toFinset, h.mem_found]

/-- On a lossy bus the devices stay covered. -/
private theorem covers_keptByVisits (config : SearchConfig) (hbus : LossyBus link P R) (hP : ∀ uid ∈ P, uid.Valid) :
    KeptByVisits config link (Covers R P) := by
  intro b rest s hst h
  cases hst with
  | cons ordered inside narrow below others =>
    obtain ⟨again, s', news, hs', hnews, hleaf, hgone⟩ := visit_run config hbus hP ordered inside h.muted
    exact ⟨again, s', hs', fun ha => ⟨hleaf ha, fun lower upper hsplit _ _ => h.split hnews hsplit⟩,
      fun ha => h.drop hnews (hgone ha)⟩

/-- On an ideal bus the devices are found in their order. -/
private theorem ascending_keptByVisits (config : SearchConfig) (hbus : IdealBus link P R) (hP : ∀ uid ∈ P, uid.Valid)
    (hswap : config.swapFallback = false) : KeptByVisits config link (Ascending R P) := by
  intro b rest s hst h
  cases hst with
  | cons ordered inside narrow below others =>
    -- what was found lies below the branch
    have hfresh : ∀ uid ∈ P, b.contains uid = true → uid ∉ s.found.toFinset := fun uid _ hin hold => by
      have hlow := h.ahead uid (List.mem_toFinset.1 hold) b List.mem_cons_self
      have hin := (Branch.contains_iff.1 hin).1
      omega
    obtain ⟨again, s', news, hs', hnews, hagain, hdone⟩ :=
      visit_exact config hbus hP hswap ordered inside h.muted hfresh
    refine ⟨again, s', hs', fun ha => ?_, fun ha => ?_⟩
    · obtain ⟨hleaf, rfl⟩ := hagain ha
      have hf : s'.found = s.found := by rw [hnews.found, List.append_nil]
      refine ⟨hleaf, fun lower upper hsplit hlow hup => ⟨h.split hnews hsplit, hf ▸ h.sorted, ?_⟩⟩
      intro uid hu c hc
      rw [hf] at hu
      have hb := h.ahead uid hu b List.mem_cons_self
      rcases List.mem_cons.1 hc with rfl | hc
      · omega
      rcases List.mem_cons.1 hc with rfl | hc
      · omega
      · exact h.ahead uid hu c (List.mem_cons_of_mem _ hc)
    · obtain ⟨hone, hmem⟩ := hdone ha
      have hin : ∀ uid ∈ news, b.lower ≤ uid.value ∧ uid.value ≤ b.upper := fun uid hu =>
        Branch.contains_iff.1 ((hmem uid).1 hu).2
      have hgone : awake P (s.found.toFinset ∪ news.toFinset) b = ∅ :=
        Finset.eq_empty_of_forall_notMem fun uid hu => by
          obtain ⟨hu, hawake, hin⟩ := mem_awake.1 hu
          exact hawake (Finset.mem_union_right _ (List.mem_toFinset.2 ((hmem uid).2 ⟨hu, hin⟩)))
      refine ⟨h.drop hnews hgone, ?_, ?_⟩
      · rw [hnews.found, List.pairwise_append]
        refine ⟨h.sorted, ?_, fun uid hu other ho => ?_⟩
        · match news, hone with
          | [], _ => exact .nil
          | [_], _ => exact List.pairwise_singleton _ _
        · exact Nat.lt_of_lt_of_le (h.ahead uid hu b List.mem_cons_self) (hin other ho).1
      · intro uid hu c hc
        rw [hnews.found, List.mem_append] at hu
        rcases hu with hu | hu
        · exact h.ahead uid hu c (List.mem_cons_of_mem _ hc)
        · exact Nat.lt_of_le_of_lt (hin uid hu).2 (below c hc)

/-- A search starts with nothing found and nobody muted, and what its visits keep holds in the end. -/
theorem whole_run {I : List Branch → Search σ → Prop} (hbus : MutingBus link P R)
    (start : ∀ s : Search σ, s.found = [] → R s.controller.uid s.controller.link ∅ → I [.whole] s)
    (hkept : KeptByVisits config link I) {c : Controller σ} (hR : R c.uid c.link M) :
    ∃ s', (whole config link).runFrom ⟨c, []⟩ = (.ok s'.found.length, s') ∧ I [] s' := by
  obtain ⟨l, hl, hR'⟩ := hbus.unMute c.isUnMute_requestOf hR
  obtain ⟨s', hs', hI⟩ := searchAll_run hkept stacked_whole (start ⟨{ c with link := l }, []⟩ rfl hR')
  refine ⟨s', ?_, hI⟩
  rw [whole]
  simp only [Run.runFrom_bind, runFrom_onController, Controller.unMute_run c hl, BranchStack.whole, hs']
  rfl

end Search

namespace Controller

/-- A search loses no device on a bus that garbles answers to probes: it succeeds, and the identifiers it reports
are those of the devices. -/
theorem discover_lossy (config : SearchConfig) (hbus : LossyBus link P R) (hP : ∀ uid ∈ P, uid.Valid)
    (c : Controller σ) (hR : R c.uid c.link M) :
    ∃ found c', c.discover config link = (.ok found.length, found, c') ∧ ∀ uid, uid ∈ found ↔ uid ∈ P := by
  obtain ⟨s, hs, hcovers⟩ := Search.whole_run hbus.toMutingBus (fun _ => Search.covers_whole hP)
    (Search.covers_keptByVisits config hbus hP) hR
  exact ⟨s.found, s.controller, by rw [discover, hs], hcovers.mem_found⟩

/-- Two devices that answer in the name of a third one, which does not exist, are found nevertheless. -/
theorem discover_lossy_phantom :
    let uids : List Uid := [⟨0x4D4C, 5⟩, ⟨0x4D4C, 6⟩]
    let devices : Simulation.Population Malformed := .fresh (fun _ => ⟨0x7FF0, 1⟩) uids
    ∃ found c', (⟨⟨0x4D4C, 1⟩, 1, 0, devices⟩ : Controller _).discover ⟨true, true, 0⟩ Simulation.Population.link =
      (.ok found.length, found, c') ∧ ∀ uid, uid ∈ found ↔ uid ∈ uids.toFinset :=
  discover_lossy ⟨true, true, 0⟩ (Simulation.Population.lossyBus (fun _ => ⟨0x7FF0, 1⟩) _) (by decide) _
    (Simulation.Population.holds_fresh _ (by decide))

/-- A search on an ideal bus reports each device once and nobody else, in ascending order, and leaves all of them
muted. -/
theorem discover_ideal (config : SearchConfig) (hswap : config.swapFallback = false) (hbus : IdealBus link P R)
    (hP : ∀ uid ∈ P, uid.Valid) (c : Controller σ) (hR : R c.uid c.link M) :
    ∃ found c', c.discover config link = (.ok P.card, found, c') ∧
      (found.Pairwise fun a b => a.value < b.value) ∧ (∀ uid, uid ∈ found ↔ uid ∈ P) ∧ R c'.uid c'.link P := by
  obtain ⟨s, hs, hasc⟩ := Search.whole_run hbus.toMutingBus (fun _ => Search.ascending_whole hP)
    (Search.ascending_keptByVisits config hbus hP hswap) hR
  have hnodup : s.found.Nodup := hasc.sorted.imp fun h heq => by rw [heq] at h; exact absurd h (Nat.lt_irrefl _)
  have hcard : s.found.length = P.card := by rw [← hasc.toFinset_found, List.toFinset_card_of_nodup hnodup]
  refine ⟨s.found, s.controller, by rw [discover, hs, hcard], hasc.sorted, hasc.mem_found, ?_⟩
  rw [← hasc.toFinset_found]
  exact hasc.muted

/-- Three devices, two of them with neighbouring values. -/
theorem discover_ideal_three :
    let uids : List Uid := [⟨0x7FFE, 0xFFFFFFFE⟩, ⟨0x4D4C, 6⟩, ⟨0x4D4C, 5⟩]
    let devices : Simulation.Population Malformed := .fresh id uids
    ∃ found c', (⟨⟨0x4D4C, 1⟩, 1, 0, devices⟩ : Controller _).discover ⟨true, false, 3⟩ Simulation.Population.link =
      (.ok uids.toFinset.card, found, c') ∧ (found.Pairwise fun a b => a.value < b.value) ∧
        (∀ uid, uid ∈ found ↔ uid ∈ uids.toFinset) ∧ c'.link.Holds id uids.toFinset uids.toFinset :=
  discover_ideal ⟨true, false, 3⟩ rfl (Simulation.Population.idealBus _) (by decide) _
    (Simulation.Population.holds_fresh _ (by decide))

end Controller

end LightBus
