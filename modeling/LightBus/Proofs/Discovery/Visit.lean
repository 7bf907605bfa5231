import LightBus.Proofs.Discovery.Devices

/-!
# Visits of branches

What the steps of a search do on a lossy bus and on an ideal one.  `Reported R P M news s s'` sums up a part of the
search: the devices that were muted are exactly those that were reported.

* `visit_run`: a visit ends without an error, and a branch that is given up has no device that is awake.
* `visit_ideal`: on an ideal bus a visit reports nothing if the branch has to be split, and else all of its devices
  that were awake, and one device at most.
* `visit_exact`: without the fallback it reports nobody else, so that a branch whose devices are all awake is done.
-/

namespace LightBus

namespace Search

variable {σ ε : Type} {link : ControllerLink σ ε} {P M : Finset Uid} {R : Uid → σ → Finset Uid → Prop}
  {config : SearchConfig} {s : Search σ} {b : Branch} {uid : Uid}

/-- From `s`, where `M` is muted, to `s'` the devices `news` were muted and reported, and no others. -/
structure Reported (R : Uid → σ → Finset Uid → Prop) (P M : Finset Uid) (news : List Uid) (s s' : Search σ) :
    Prop where
  found : s'.found = s.found ++ news
  mem : ∀ uid ∈ news, uid ∈ P
  muted : R s'.controller.uid s'.controller.link (M ∪ news.toFinset)

theorem Reported.refl {s s' : Search σ} (hf : s'.found = s.found) (hR : R s'.controller.uid s'.controller.link M) :
    Reported R P M [] s s' :=
  ⟨by rw [hf, List.append_nil], (fun _ h => nomatch h), by rwa [List.toFinset_nil, Finset.union_empty]⟩

theorem Reported.trans {s s' s'' : Search σ} {news more : List Uid} (h : Reported R P M news s s')
    (h' : Reported R P (M ∪ news.toFinset) more s' s'') : Reported R P M (news ++ more) s s'' := by
  refine ⟨by rw [h'.found, h.found, List.append_assoc], fun uid hu => ?_, ?_⟩
  · rcases List.mem_append.1 hu with hu | hu
    · exact h.mem uid hu
    · exact h'.mem uid hu
  · rw [List.toFinset_append, ← Finset.union_assoc]
    exact h'.muted

private theorem Reported.of_found_eq {s s₁ s' : Search σ} {news : List Uid} (h : Reported R P M news s₁ s')
    (hf : s₁.found = s.found) : Reported R P M news s s' :=
  ⟨by rw [h.found, hf], h.mem, h.muted⟩

/-- The search takes `site` for the identifier of the device `uid`: it is, or nobody has it and its reverse is. -/
def TakenFor (config : SearchConfig) (P : Finset Uid) (site uid : Uid) : Prop :=
  site = uid ∨ (config.swapFallback = true ∧ site ∉ P ∧ site.Valid ∧ site.swapBytes = some uid)

theorem tries_pos (config : SearchConfig) : ∃ n, tries config = n + 1 :=
  ⟨tries config - 1, by rw [tries]; omega⟩

/-! ### Muting -/

theorem runFrom_onController {α : Type} (a : Run (Controller σ) (ControllerError ε) α) (s : Search σ) :
    (onController a).runFrom s =
      ((a.runFrom s.controller).1, { s with controller := (a.runFrom s.controller).2 }) :=
  rfl

/-- A device answers the first mute request. -/
private theorem mute_of_mem (hbus : MutingBus link P R) (hu : uid ∈ P) (hR : R s.controller.uid s.controller.link M)
    (n : Nat) :
    ∃ reply s', (mute link uid (n + 1)).runFrom s = (.ok (some reply), s') ∧ reply.binding = none ∧
      s'.found = s.found ∧ R s'.controller.uid s'.controller.link (insert uid M) := by
  obtain ⟨p, reply, l, hl, hack, hbinding, hR'⟩ := hbus.mute_mem (Controller.isMute_requestOf s.controller uid) hu hR
  refine ⟨reply, { s with controller := { s.controller with link := l, messageCount := p.messageCount } }, ?_,
    hbinding, rfl, hR'⟩
  rw [mute]
  simp only [Run.runFrom_bind, Run.runFrom_attempt, runFrom_onController,
    Controller.mute_of_acknowledged s.controller hl hack, Run.runFrom_pure]

/-- Where nobody answers, all mute requests are in vain. -/
private theorem mute_of_unanswered (hnobody : Unanswered link R uid) (hR : R s.controller.uid s.controller.link M)
    (n : Nat) :
    ∃ s', (mute link uid n).runFrom s = (.ok none, s') ∧ s'.found = s.found ∧
    R s'.controller.uid s'.controller.link M := by
  induction n generalizing s with
  | zero => exact ⟨s, rfl, rfl, hR⟩
  | succ n ih =>
    obtain ⟨outcome, l, hl, hdriver, hack, hR'⟩ := hnobody (Controller.isMute_requestOf s.controller uid) hR
    obtain ⟨r, c, hc, hsource, rfl, hnone, herror⟩ :=
      Controller.mute_of_not_acknowledged s.controller hl hdriver hack
    have hR' : R c.uid c.link M := hsource ▸ hR'
    rw [mute]
    simp only [Run.runFrom_bind, Run.runFrom_attempt, runFrom_onController, hc]
    split
    · rename_i reply
      cases reply with
      | none => exact ⟨_, rfl, rfl, hR'⟩
      | some reply => exact absurd rfl (hnone reply)
    · rename_i e
      exact absurd rfl (herror e)
    · exact ih hR'

/-- Without a binding a device is known by its own identifier. -/
private theorem nameOf_of_binding {reply : MuteReply} (h : reply.binding = none) (uid : Uid) :
    nameOf uid reply = uid := by
  rw [nameOf, h]; rfl

private theorem union_toFinset_singleton (M : Finset Uid) (uid : Uid) : M ∪ [uid].toFinset = insert uid M := by
  rw [List.toFinset_cons, List.toFinset_nil, insert_empty_eq, Finset.union_singleton]

private theorem union_toFinset_nil (M : Finset Uid) : M ∪ ([] : List Uid).toFinset = M := by
  rw [List.toFinset_nil, Finset.union_empty]

/-- A device that was muted is reported. -/
private theorem report_run {s₁ : Search σ} (hu : uid ∈ P) (hf : s₁.found = s.found)
    (hR : R s₁.controller.uid s₁.controller.link (insert uid M)) :
    ∃ s₂, (report uid : Run _ (ControllerError ε) Unit).runFrom s₁ = (.ok (), s₂) ∧ Reported R P M [uid] s s₂ := by
  refine ⟨{ s₁ with found := s₁.found ++ [uid] }, rfl, by rw [← hf], fun other ho => ?_, ?_⟩
  · rwa [List.mem_singleton.1 ho]
  · rwa [union_toFinset_singleton]

/-- The device with the value of a leaf is muted, or with its bytes reversed another device of the bus. -/
private theorem muteLeaf_run (config : SearchConfig) (hbus : MutingBus link P R)
    (hnobody : ∀ uid ∉ P, uid.Valid → Unanswered link R uid) (hP : ∀ uid ∈ P, uid.Valid)
    (hR : R s.controller.uid s.controller.link M) (value : Nat) :
    ∃ r s', (muteLeaf config link value).runFrom s = (.ok r, s') ∧ s'.found = s.found ∧
      R s'.controller.uid s'.controller.link (M ∪ r.toList.toFinset) ∧ (∀ uid ∈ r, uid ∈ P) ∧
      (∀ uid ∈ P, uid.value = value → uid ∈ r) ∧
      ∀ uid ∈ r, ∃ site : Uid, site.value = value ∧ TakenFor config P site uid := by
  -- an identifier with the value would have been the one that was tried
  have hvalue : ∀ uid ∈ P, uid.value = value → Uid.ofValue? value = .ok uid := by
    rintro uid hu rfl
    exact (hP uid hu).ofValue?_value
  obtain ⟨n, hn⟩ := tries_pos config
  unfold muteLeaf
  cases hv : Uid.ofValue? value with
  | error e =>
    refine ⟨none, s, rfl, rfl, by rwa [Option.toList_none, union_toFinset_nil], nofun, fun uid hu h => ?_, nofun⟩
    rw [hvalue uid hu h] at hv; cases hv
  | ok uid =>
    have hval := Uid.value_of_ofValue?_eq_ok hv
    have hvalid := Uid.valid_of_ofValue?_eq_ok hv
    have honly : ∀ other ∈ P, other.value = value → other = uid := fun other ho h =>
      Uid.value_inj.1 (h.trans hval.symm)
    by_cases hu : uid ∈ P
    · obtain ⟨reply, s', hs', hbinding, hf, hR'⟩ := mute_of_mem hbus hu hR n
      refine ⟨some uid, s', ?_, hf, by rwa [Option.toList_some, union_toFinset_singleton], ?_, ?_, ?_⟩
      · simp only [hn, Run.runFrom_bind, hs', nameOf_of_binding hbinding, Run.runFrom_pure]
      · rintro _ ⟨⟩; exact hu
      · intro other ho h; rw [honly other ho h]; rfl
      · rintro _ ⟨⟩; exact ⟨uid, hval, .inl rfl⟩
    · obtain ⟨s', hs', hf, hR'⟩ := mute_of_unanswered (hnobody uid hu hvalid) hR (tries config)
      have hother : ∀ other ∈ P, other.value ≠ value := fun other ho h => hu (honly other ho h ▸ ho)
      simp only [Run.runFrom_bind, hs']
      -- reversed bytes are tried once, and they may name another device of the bus
      have hnone : ∀ source l, R source l M → R source l (M ∪ (none : Option Uid).toList.toFinset) :=
        fun source l h => by rwa [Option.toList_none, union_toFinset_nil]
      cases hswap : config.swapFallback with
      | false =>
        exact ⟨none, s', rfl, hf, hnone _ _ hR', nofun, (fun other ho h => absurd h (hother other ho)), nofun⟩
      | true =>
        cases hbytes : uid.swapBytes with
        | none =>
          exact ⟨none, s', rfl, hf, hnone _ _ hR', nofun, (fun other ho h => absurd h (hother other ho)), nofun⟩
        | some swapped =>
          by_cases hs : swapped ∈ P
          · obtain ⟨reply, s'', hs'', hbinding, hf', hR''⟩ := mute_of_mem hbus hs hR' 0
            refine ⟨some swapped, s'', ?_, hf'.trans hf, by rwa [Option.toList_some, union_toFinset_singleton], ?_,
              (fun other ho h => absurd h (hother other ho)), ?_⟩
            · simp only [Bool.not_true, Bool.false_eq_true, ↓reduceIte, Run.runFrom_bind, hs'', Option.map_some,
                nameOf_of_binding hbinding, Run.runFrom_pure]
            · rintro _ ⟨⟩; exact hs
            · rintro _ ⟨⟩; exact ⟨uid, hval, .inr ⟨hswap, hu, hvalid, hbytes⟩⟩
          · have hvalid' := (Uid.swapBytes_eq_some_iff.1 hbytes).1
            obtain ⟨s'', hs'', hf', hR''⟩ := mute_of_unanswered (hnobody swapped hs hvalid') hR' 1
            refine ⟨none, s'', ?_, hf'.trans hf, hnone _ _ hR'', nofun,
              (fun other ho h => absurd h (hother other ho)), nofun⟩
            simp only [Bool.not_true, Bool.false_eq_true, ↓reduceIte, Run.runFrom_bind, hs'', Option.map_none,
              Run.runFrom_pure]

/-! ### Probing -/

/-- If all answers to probes of the branch are `Q`, the last one is. -/
private theorem probe_run {Q : ProbeResult → Prop}
    (hstep : ∀ {c : Controller σ}, R c.uid c.link M → ∃ answer l,
      (link.probe (c.requestOf .discovery .broadcast .discUniqueBranch 0 b.payload)).runFrom c.link =
        (.ok answer, l) ∧ Q answer ∧ R c.uid l M)
    (hR : R s.controller.uid s.controller.link M) (n : Nat) :
    ∃ answer s', (probe link b (n + 1)).runFrom s = (.ok answer, s') ∧
      Q answer ∧ s'.found = s.found ∧ R s'.controller.uid s'.controller.link M := by
  induction n generalizing s with
  | zero =>
    obtain ⟨answer, l, hl, hq, hR'⟩ := hstep hR
    refine ⟨answer, { s with controller := { s.controller with link := l } }, ?_, hq, rfl, hR'⟩
    rw [probe]
    simp only [Run.runFrom_bind, runFrom_onController, Controller.probe_run s.controller hl]
    cases answer <;> rfl
  | succ n ih =>
    obtain ⟨answer, l, hl, hq, hR'⟩ := hstep hR
    rw [probe]
    simp only [Run.runFrom_bind, runFrom_onController, Controller.probe_run s.controller hl]
    cases answer with
    | nobody => exact ih hR'
    | collision => exact ⟨_, _, rfl, hq, rfl, hR'⟩
    | found uid => exact ⟨_, _, rfl, hq, rfl, hR'⟩

private theorem probe_tries {Q : ProbeResult → Prop} (config : SearchConfig)
    (hstep : ∀ {c : Controller σ}, R c.uid c.link M → ∃ answer l,
      (link.probe (c.requestOf .discovery .broadcast .discUniqueBranch 0 b.payload)).runFrom c.link =
        (.ok answer, l) ∧ Q answer ∧ R c.uid l M)
    (hR : R s.controller.uid s.controller.link M) :
    ∃ answer s', (probe link b (tries config)).runFrom s = (.ok answer, s') ∧
      Q answer ∧ s'.found = s.found ∧ R s'.controller.uid s'.controller.link M := by
  obtain ⟨n, hn⟩ := tries_pos config
  rw [hn]
  exact probe_run hstep hR n

/-- Silence means that no device of the branch is awake. -/
private theorem probe_of_lossy (config : SearchConfig) (hbus : LossyBus link P R) (hle : b.lower ≤ b.upper)
    (hb : b.upper ≤ maxUidValue) (hR : R s.controller.uid s.controller.link M) :
    ∃ answer s', (probe link b (tries config)).runFrom s = (.ok answer, s') ∧
      (answer = .nobody → awake P M b = ∅) ∧ s'.found = s.found ∧ R s'.controller.uid s'.controller.link M :=
  probe_tries config (fun {c} h => hbus.probe (c.isProbe_requestOf hle hb) h) hR

/-- On an ideal bus the answer describes the devices of the branch that are awake. -/
private theorem probe_of_ideal (config : SearchConfig) (hbus : IdealBus link P R) (hle : b.lower ≤ b.upper)
    (hb : b.upper ≤ maxUidValue) (hR : R s.controller.uid s.controller.link M) :
    ∃ answer s', (probe link b (tries config)).runFrom s = (.ok answer, s') ∧ answer.Describes (awake P M b) ∧
      s'.found = s.found ∧ R s'.controller.uid s'.controller.link M :=
  probe_tries config (fun {c} h => hbus.probe (c.isProbe_requestOf hle hb) h) hR

/-! ### Quick find -/

private theorem quickFind_zero (answer : ProbeResult) : quickFind config link b 0 answer = pure answer := by
  cases answer <;> rfl

private theorem quickFind_of_mem (config : SearchConfig) (hbus : MutingBus link P R) (b : Branch) (hu : uid ∈ P)
    (hR : R s.controller.uid s.controller.link M) : ∃ s₁, Reported R P M [uid] s s₁ ∧ ∀ rounds answer s₂,
      (probe link b (tries config)).runFrom s₁ = (.ok answer, s₂) →
      (quickFind config link b (rounds + 1) (.found uid)).runFrom s =
        (quickFind config link b rounds answer).runFrom s₂ := by
  obtain ⟨n, hn⟩ := tries_pos config
  obtain ⟨reply, s₀, hs₀, hbinding, hf, hR₀⟩ := mute_of_mem hbus hu hR n
  obtain ⟨s₁, hs₁, hnews⟩ := report_run hu hf hR₀
  refine ⟨s₁, hnews, fun rounds answer s₂ hs₂ => ?_⟩
  rw [quickFind, hn]
  rw [hn] at hs₂
  simp only [Run.runFrom_bind, hs₀, nameOf_of_binding hbinding]
  rw [hs₁]
  simp only [hs₂]

/-- Devices that are found by name are muted and reported, and the last answer is as good as the first. -/
private theorem quickFind_run (config : SearchConfig) (hbus : LossyBus link P R) (hle : b.lower ≤ b.upper)
    (hb : b.upper ≤ maxUidValue) (rounds : Nat) : ∀ {s : Search σ} {M : Finset Uid} {answer : ProbeResult},
    R s.controller.uid s.controller.link M → (answer = .nobody → awake P M b = ∅) → ∃ result s' news,
      (quickFind config link b rounds answer).runFrom s = (.ok result, s') ∧ Reported R P M news s s' ∧
        (result = .nobody → awake P (M ∪ news.toFinset) b = ∅) := by
  induction rounds with
  | zero =>
    intro s M answer hR hq
    exact ⟨answer, s, [], by rw [quickFind_zero]; rfl, .refl rfl hR, by rwa [union_toFinset_nil]⟩
  | succ rounds ih =>
    intro s M answer hR hq
    cases answer with
    | nobody => exact ⟨.nobody, s, [], rfl, .refl rfl hR, by rwa [union_toFinset_nil]⟩
    | collision => exact ⟨.collision, s, [], rfl, .refl rfl hR, by rwa [union_toFinset_nil]⟩
    | found uid =>
      by_cases hu : uid ∈ P
      · obtain ⟨s₁, hsingle, hnext⟩ := quickFind_of_mem config hbus.toMutingBus b hu hR
        obtain ⟨answer, s₂, hs₂, hq₂, hf₂, hR₂⟩ := probe_of_lossy config hbus hle hb hsingle.muted
        obtain ⟨result, s', news, hs', hnews, hlast⟩ := ih hR₂ hq₂
        refine ⟨result, s', [uid] ++ news, ?_, hsingle.trans (hnews.of_found_eq hf₂), ?_⟩
        · rw [hnext rounds answer s₂ hs₂, hs']
        · rwa [List.toFinset_append, ← Finset.union_assoc]
      · -- nobody has the name that was heard, so a round is lost and nothing else happens
        obtain ⟨s₁, hs₁, hf₁, hR₁⟩ := mute_of_unanswered (hbus.mute_not_mem uid hu) hR (tries config)
        obtain ⟨answer, s₂, hs₂, hq₂, hf₂, hR₂⟩ := probe_of_lossy config hbus hle hb hR₁
        obtain ⟨result, s', news, hs', hnews, hlast⟩ := ih hR₂ hq₂
        refine ⟨result, s', news, ?_, hnews.of_found_eq (hf₂.trans hf₁), hlast⟩
        rw [quickFind]
        simp only [Run.runFrom_bind, hs₁, hs₂]
        exact hs'

/-- The only device that is awake is muted and reported, and then nobody answers. -/
private theorem quickFind_found (config : SearchConfig) (hbus : IdealBus link P R) (hle : b.lower ≤ b.upper)
    (hb : b.upper ≤ maxUidValue) (hlone : awake P M b = {uid}) (hR : R s.controller.uid s.controller.link M)
    (rounds : Nat) :
    ∃ s', (quickFind config link b (rounds + 1) (.found uid)).runFrom s = (.ok .nobody, s') ∧
      Reported R P M [uid] s s' := by
  obtain ⟨hu, -, -⟩ := mem_awake.1 (hlone ▸ Finset.mem_singleton_self uid)
  have hnone : awake P (M ∪ [uid].toFinset) b = ∅ := by
    rw [union_toFinset_singleton]
    refine Finset.eq_empty_of_forall_notMem fun other ho => ?_
    obtain ⟨ho, hawake, hin⟩ := mem_awake.1 ho
    rw [Finset.mem_insert, not_or] at hawake
    have hlone' : other ∈ awake P M b := mem_awake.2 ⟨ho, hawake.2, hin⟩
    rw [hlone, Finset.mem_singleton] at hlone'
    exact hawake.1 hlone'
  obtain ⟨s₁, hnews, hnext⟩ := quickFind_of_mem config hbus.toMutingBus b hu hR
  obtain ⟨answer, s₂, hs₂, hanswer, hf₂, hR₂⟩ := probe_of_ideal config hbus hle hb hnews.muted
  obtain rfl := ProbeResult.describes_empty (hnone ▸ hanswer)
  refine ⟨s₂, ?_, ⟨hf₂.trans hnews.found, hnews.mem, hR₂⟩⟩
  rw [hnext rounds .nobody s₂ hs₂]
  cases rounds <;> rfl

/-! ### A whole visit -/

/-- A leaf is never split, and the device in it is muted and reported. -/
private theorem visit_leaf (config : SearchConfig) (hbus : MutingBus link P R)
    (hnobody : ∀ uid ∉ P, uid.Valid → Unanswered link R uid) (hP : ∀ uid ∈ P, uid.Valid) (hl : b.isLeaf = true)
    (hR : R s.controller.uid s.controller.link M) :
    ∃ (r : Option Uid) (s' : Search σ),
      (visit config link b).runFrom s = (.ok false, s') ∧ Reported R P M r.toList s s' ∧
      (∀ uid ∈ P, b.contains uid = true → uid ∈ r) ∧
      ∀ uid ∈ r, ∃ site, b.contains site = true ∧ TakenFor config P site uid := by
  have hcontains : ∀ uid : Uid, b.contains uid = true ↔ uid.value = b.lower := fun uid => by
    rw [Branch.isLeaf_iff] at hl
    rw [Branch.contains_iff]
    omega
  obtain ⟨r, s₁, hs₁, hf, hR₁, hmem, hall, hvalue⟩ := muteLeaf_run config hbus hnobody hP hR b.lower
  simp only [hcontains]
  rw [visit, if_pos hl]
  simp only [Run.runFrom_bind, hs₁]
  cases r with
  | none =>
    rw [Option.toList_none, union_toFinset_nil] at hR₁
    exact ⟨none, s₁, rfl, .refl hf hR₁, hall, hvalue⟩
  | some uid =>
    rw [Option.toList_some, union_toFinset_singleton] at hR₁
    obtain ⟨s₂, hs₂, hnews⟩ := report_run (hmem uid rfl) hf hR₁
    refine ⟨some uid, s₂, ?_, hnews, hall, hvalue⟩
    simp only [Run.runFrom_bind]
    rw [hs₂]
    rfl

private theorem visit_of_nobody {s₁ : Search σ} (hl : ¬b.isLeaf = true)
    (hs₁ : (probe link b (tries config)).runFrom s = (.ok .nobody, s₁)) :
    (visit config link b).runFrom s = (.ok false, s₁) := by
  rw [visit, if_neg hl]
  simp only [Run.runFrom_bind, hs₁, Run.runFrom_pure]

theorem visit_of_answer {s₁ : Search σ} {answer : ProbeResult} (hl : ¬b.isLeaf = true)
    (hs₁ : (probe link b (tries config)).runFrom s = (.ok answer, s₁)) (hanswer : answer ≠ .nobody)
    (hquick : config.quickFind = false) : (visit config link b).runFrom s = (.ok true, s₁) := by
  rw [visit, if_neg hl]
  simp only [Run.runFrom_bind, hs₁, hquick]
  cases answer with
  | nobody => exact absurd rfl hanswer
  | collision => rfl
  | found uid => rfl

private theorem visit_of_quickFind {s₁ s₂ : Search σ} {answer result : ProbeResult} (hl : ¬b.isLeaf = true)
    (hs₁ : (probe link b (tries config)).runFrom s = (.ok answer, s₁)) (hanswer : answer ≠ .nobody)
    (hquick : config.quickFind = true)
    (hs₂ : (quickFind config link b quickFindRounds answer).runFrom s₁ = (.ok result, s₂)) :
    (visit config link b).runFrom s = (.ok (result != .nobody), s₂) := by
  rw [visit, if_neg hl]
  simp only [Run.runFrom_bind, hs₁, hquick]
  cases answer with
  | nobody => exact absurd rfl hanswer
  | collision => simp only [Bool.not_true, Bool.false_eq_true, ↓reduceIte, Run.runFrom_bind, hs₂, Run.runFrom_pure]
  | found uid => simp only [Bool.not_true, Bool.false_eq_true, ↓reduceIte, Run.runFrom_bind, hs₂, Run.runFrom_pure]

/-- A visit never fails.  Only a branch that is no leaf is split, and a branch that is given up has no device left
that is awake. -/
theorem visit_run (config : SearchConfig) (hbus : LossyBus link P R) (hP : ∀ uid ∈ P, uid.Valid)
    (hle : b.lower ≤ b.upper) (hb : b.upper ≤ maxUidValue) (hR : R s.controller.uid s.controller.link M) :
    ∃ again s' news, (visit config link b).runFrom s = (.ok again, s') ∧ Reported R P M news s s' ∧
      (again = true → ¬b.isLeaf = true) ∧ (again = false → awake P (M ∪ news.toFinset) b = ∅) := by
  by_cases hl : b.isLeaf = true
  · obtain ⟨r, s', hs', hnews, hall, -⟩ := visit_leaf config hbus.toMutingBus
      (fun uid hu _ => hbus.mute_not_mem uid hu) hP hl hR
    refine ⟨false, s', r.toList, hs', hnews, nofun, fun _ => Finset.eq_empty_of_forall_notMem fun uid hu => ?_⟩
    -- whoever is in the leaf is the device that was muted
    obtain ⟨hu, hawake, hin⟩ := mem_awake.1 hu
    exact hawake (Finset.mem_union_right _ (List.mem_toFinset.2 (Option.mem_toList.2 (hall uid hu hin))))
  · obtain ⟨answer, s₁, hs₁, hsilent, hf, hR₁⟩ := probe_of_lossy config hbus hle hb hR
    by_cases hanswer : answer = .nobody
    · subst hanswer
      refine ⟨false, s₁, [], visit_of_nobody hl hs₁, .refl hf hR₁, nofun, fun _ => ?_⟩
      rw [union_toFinset_nil]
      exact hsilent rfl
    · cases hquick : config.quickFind with
      | false => exact ⟨true, s₁, [], visit_of_answer hl hs₁ hanswer hquick, .refl hf hR₁, fun _ => hl, nofun⟩
      | true =>
        obtain ⟨result, s₂, news, hs₂, hnews, hlast⟩ := quickFind_run config hbus hle hb quickFindRounds hR₁ hsilent
        refine ⟨result != .nobody, s₂, news, visit_of_quickFind hl hs₁ hanswer hquick hs₂,
          hnews.of_found_eq hf, fun _ => hl, fun h => hlast (bne_eq_false_iff_eq.1 h)⟩

/-- So many devices of a branch that are awake make a search go on with its halves. -/
def crowdSize (config : SearchConfig) : Nat := if config.quickFind then 2 else 1

/-- What a visit does on an ideal bus.  A branch is split if enough of its devices are awake, and nobody is reported
then.  Else one device is reported at most, and all of the branch that were awake are. -/
theorem visit_ideal (config : SearchConfig) (hbus : IdealBus link P R) (hP : ∀ uid ∈ P, uid.Valid)
    (hle : b.lower ≤ b.upper) (hb : b.upper ≤ maxUidValue) (hR : R s.controller.uid s.controller.link M) :
    ∃ again s' news, (visit config link b).runFrom s = (.ok again, s') ∧ Reported R P M news s s' ∧
      (again = true → ¬b.isLeaf = true ∧ news = [] ∧ crowdSize config ≤ (awake P M b).card) ∧
      (again = false → news.length ≤ 1 ∧ (∀ uid ∈ awake P M b, uid ∈ news) ∧
        ∀ uid ∈ news, ∃ site, b.contains site = true ∧ TakenFor config P site uid ∧
        (b.isLeaf = true ∨ site = uid)) := by
  by_cases hl : b.isLeaf = true
  · obtain ⟨r, s', hs', hnews, hall, hsite⟩ := visit_leaf config hbus.toMutingBus (fun _ => hbus.unanswered) hP hl hR
    refine ⟨false, s', r.toList, hs', hnews, nofun,
      fun _ => ⟨Option.length_toList_le, fun uid hu => ?_, fun uid hu => ?_⟩⟩
    · obtain ⟨hu, -, hin⟩ := mem_awake.1 hu
      exact Option.mem_toList.2 (hall uid hu hin)
    · obtain ⟨site, hin, htaken⟩ := hsite uid (Option.mem_toList.1 hu)
      exact ⟨site, hin, htaken, .inl hl⟩
  · obtain ⟨answer, s₁, hs₁, hdescribes, hf, hR₁⟩ := probe_of_ideal config hbus hle hb hR
    cases answer with
    | nobody =>
      refine ⟨false, s₁, [], visit_of_nobody hl hs₁, .refl hf hR₁, nofun,
        fun _ => ⟨Nat.zero_le _, fun uid hu => ?_, nofun⟩⟩
      rw [show awake P M b = ∅ from hdescribes] at hu
      exact absurd hu (Finset.notMem_empty uid)
    | collision =>
      have hcrowd : 1 < (awake P M b).card := hdescribes
      have hsize : crowdSize config ≤ (awake P M b).card := by unfold crowdSize; split <;> omega
      cases hquick : config.quickFind with
      | false =>
        exact ⟨true, s₁, [], visit_of_answer hl hs₁ nofun hquick, .refl hf hR₁, fun _ => ⟨hl, rfl, hsize⟩, nofun⟩
      | true =>
        exact ⟨true, s₁, [], visit_of_quickFind hl hs₁ nofun hquick rfl, .refl hf hR₁, fun _ => ⟨hl, rfl, hsize⟩,
          nofun⟩
    | found uid =>
      have hlone : awake P M b = {uid} := hdescribes
      cases hquick : config.quickFind with
      | false =>
        refine ⟨true, s₁, [], visit_of_answer hl hs₁ nofun hquick, .refl hf hR₁, fun _ => ⟨hl, rfl, ?_⟩, nofun⟩
        rw [hlone, Finset.card_singleton, crowdSize, hquick]
        decide
      | true =>
        obtain ⟨s₂, hs₂, hnews⟩ := quickFind_found config hbus hle hb hlone hR₁ 2
        refine ⟨false, s₂, [uid], visit_of_quickFind hl hs₁ nofun hquick hs₂, hnews.of_found_eq hf, nofun,
          fun _ => ⟨Nat.le_refl _, fun other ho => ?_, fun other ho => ?_⟩⟩
        · rw [hlone, Finset.mem_singleton] at ho
          exact List.mem_singleton.2 ho
        · obtain rfl := List.mem_singleton.1 ho
          have hin : other ∈ awake P M b := hlone ▸ Finset.mem_singleton_self other
          exact ⟨other, (mem_awake.1 hin).2.2, .inl rfl, .inr rfl⟩

/-- On an ideal bus a visit of a branch with devices that are all awake reports nobody if the branch is split, and
else the device of the branch, if there is one. -/
theorem visit_exact (config : SearchConfig) (hbus : IdealBus link P R) (hP : ∀ uid ∈ P, uid.Valid)
    (hswap : config.swapFallback = false) (hle : b.lower ≤ b.upper) (hb : b.upper ≤ maxUidValue)
    (hR : R s.controller.uid s.controller.link M) (hfresh : ∀ uid ∈ P, b.contains uid = true → uid ∉ M) :
    ∃ again s' news, (visit config link b).runFrom s = (.ok again, s') ∧ Reported R P M news s s' ∧
      (again = true → ¬b.isLeaf = true ∧ news = []) ∧
      (again = false → news.length ≤ 1 ∧ ∀ uid, uid ∈ news ↔ uid ∈ P ∧ b.contains uid = true) := by
  obtain ⟨again, s', news, hs', hnews, hagain, hdone⟩ := visit_ideal config hbus hP hle hb hR
  refine ⟨again, s', news, hs', hnews, fun ha => ⟨(hagain ha).1, (hagain ha).2.1⟩, fun ha => ?_⟩
  obtain ⟨hone, hall, hsite⟩ := hdone ha
  refine ⟨hone, fun uid => ⟨fun hu => ⟨hnews.mem uid hu, ?_⟩, fun hu => ?_⟩⟩
  · obtain ⟨site, hin, rfl | ⟨hfallback, -⟩, -⟩ := hsite uid hu
    · exact hin
    · rw [hswap] at hfallback; cases hfallback
  · exact hall uid (mem_awake.2 ⟨hu.1, hfresh uid hu.1 hu.2, hu.2⟩)

end Search

end LightBus
