import LightBus.Proofs.Discovery.Coverage
import LightBus.Proofs.Discovery.Rounds
import Mathlib.Data.List.Sort

/-!
# Reversed identifiers

Where nobody has the identifier of a leaf, a search with the fallback mutes the device that has the reverse of it.
Each device is reported at a site: at its own identifier, or at its reverse if nobody has that.  The sites are in
ascending order (`Sited`), so a device is reported twice at most.

* A search comes to an identifier that nobody has only without quick find, and only if somebody has the other value
  of the pair (`Reached.beside`), for the halvings of the address space end in pairs (`Branch.Aligned`).
* `Controller.discover_fallback`: if no device has the reverse of such an identifier, then the fallback changes
  nothing.
* `Controller.reported_twice`: two devices of which one is reported twice.
-/

namespace LightBus

/-! ### Pairs -/

namespace Branch

/-- A branch that comes from halvings of the address space begins at a multiple of its size.  The highest ones are
one value short, as the address space is. -/
def Aligned (b : Branch) : Prop :=
  b.lower ≤ b.upper ∧ ∃ k, 2 ^ k ∣ b.lower ∧
  (b.upper + 1 = b.lower + 2 ^ k ∨ (b.upper = maxUidValue ∧ b.upper + 2 = b.lower + 2 ^ k))

private theorem aligned_whole : whole.Aligned := ⟨Nat.zero_le _, 48, Nat.dvd_zero _, .inr ⟨rfl, rfl⟩⟩

variable {b lower upper : Branch}

private theorem isLeaf_of_split (h : b.split = some (lower, upper)) : b.lower ≠ b.upper := by
  intro heq
  rw [split, if_pos (isLeaf_iff.2 heq)] at h
  cases h

private theorem eq_of_split (h : b.split = some (lower, upper)) :
    lower = ⟨b.lower, (b.lower + b.upper) / 2⟩ ∧ upper = ⟨(b.lower + b.upper) / 2 + 1, b.upper⟩ := by
  rw [split_of_not_isLeaf fun hl => isLeaf_of_split h (isLeaf_iff.1 hl)] at h
  cases h
  exact ⟨rfl, rfl⟩

/-- The halves of an aligned branch have half of its size. -/
private theorem Aligned.halves (h : b.Aligned) (hs : b.split = some (lower, upper)) : ∃ k, 2 ^ (k + 1) ∣ b.lower ∧
    lower = ⟨b.lower, b.lower + 2 ^ k - 1⟩ ∧ upper = ⟨b.lower + 2 ^ k, b.upper⟩ ∧
      (b.upper + 1 = b.lower + 2 ^ k + 2 ^ k ∨ (b.upper = maxUidValue ∧ b.upper + 2 = b.lower + 2 ^ k + 2 ^ k)) := by
  have hne := isLeaf_of_split hs
  obtain ⟨rfl, rfl⟩ := eq_of_split hs
  obtain ⟨hordered, _ | k, hdvd, hsize⟩ := h
  · rw [Nat.pow_zero] at hsize
    omega
  · have hpos : 0 < 2 ^ k := Nat.two_pow_pos k
    have hsize :
        b.upper + 1 = b.lower + 2 ^ k + 2 ^ k ∨ (b.upper = maxUidValue ∧ b.upper + 2 = b.lower + 2 ^ k + 2 ^ k) := by
      rw [Nat.pow_succ] at hsize
      omega
    have hmiddle : (b.lower + b.upper) / 2 = b.lower + 2 ^ k - 1 := by omega
    refine ⟨k, hdvd, by rw [hmiddle], ?_, hsize⟩
    rw [hmiddle, Nat.sub_add_cancel (by omega)]

private theorem Aligned.split (h : b.Aligned) (hs : b.split = some (lower, upper)) :
    lower.Aligned ∧ upper.Aligned := by
  have hne := isLeaf_of_split hs
  obtain ⟨k, hdvd, rfl, rfl, hsize⟩ := h.halves hs
  have hpos : 0 < 2 ^ k := Nat.two_pow_pos k
  have hdvd : 2 ^ k ∣ b.lower := Nat.dvd_trans (Nat.pow_dvd_pow 2 (Nat.le_succ k)) hdvd
  exact ⟨⟨by dsimp only; omega, k, hdvd, .inl (by dsimp only; omega)⟩,
    ⟨by dsimp only; omega, k, Nat.dvd_add hdvd (Nat.dvd_refl _), hsize⟩⟩

/-- A half with a single value is one of a pair, or it is the highest value. -/
private theorem Aligned.pair (h : b.Aligned) (hs : b.split = some (lower, upper)) {half : Branch}
    (hhalf : half = lower ∨ half = upper) (hl : half.isLeaf = true) :
    half.lower = maxUidValue ∨ ∀ uid : Uid, b.contains uid = true → uid.value / 2 = half.lower / 2 := by
  obtain ⟨k, ⟨n, hn⟩, rfl, rfl, hsize⟩ := h.halves hs
  have hpos : 0 < 2 ^ k := Nat.two_pow_pos k
  rw [isLeaf_iff] at hl
  simp only [contains_iff]
  by_cases hone : 2 ^ k = 1
  · right
    rw [Nat.pow_succ, hone] at hn
    intro uid hin
    rcases hhalf with rfl | rfl <;> dsimp only at hl ⊢ <;> omega
  · left
    rcases hhalf with rfl | rfl <;> dsimp only at hl ⊢ <;> omega

end Branch

namespace Search

variable {σ ε : Type} {link : ControllerLink σ ε} {P M : Finset Uid} {R : Uid → σ → Finset Uid → Prop}
  {config : SearchConfig} {s s' : Search σ} {b : Branch} {pending rest : List Branch} {site uid : Uid}
  {sites news : List Uid}

/-- The branches that a search can come to: it splits a branch only if it has enough devices. -/
inductive Reached (config : SearchConfig) (P : Finset Uid) : Branch → Prop where
  | whole : Reached config P .whole
  | half {b lower upper half : Branch} (h : Reached config P b) (crowded : crowdSize config ≤ (awake P ∅ b).card)
      (hs : b.split = some (lower, upper)) (hhalf : half = lower ∨ half = upper) : Reached config P half

private theorem Reached.aligned (h : Reached config P b) : b.Aligned := by
  induction h with
  | whole => exact Branch.aligned_whole
  | half _ _ hs hhalf ih =>
    obtain ⟨hlower, hupper⟩ := ih.split hs
    rcases hhalf with rfl | rfl
    · exact hlower
    · exact hupper

/-- A search comes to an identifier that nobody has only if somebody has the other one of the pair.  With quick find
it does not come to it, for two devices would have to be in the pair. -/
theorem Reached.beside (h : Reached config P b) (hl : b.isLeaf = true) (hin : b.contains site = true)
    (hvalid : site.Valid) (hempty : site ∉ P) :
    config.quickFind = false ∧ ∃ uid ∈ P, uid.value / 2 = site.value / 2 := by
  have hvalue : site.value = b.lower := by
    rw [Branch.contains_iff] at hin
    rw [Branch.isLeaf_iff] at hl
    omega
  cases h with
  | whole => exact absurd hl (by decide)
  | @half outer lower upper half h crowded hs hhalf =>
    rcases h.aligned.pair hs hhalf hl with hmax | hpair
    · exact absurd hvalid.value_lt (by omega)
    · rw [← hvalue] at hpair
      have hother : ∀ uid ∈ awake P ∅ outer, uid.value / 2 = site.value / 2 ∧ uid.value ≠ site.value :=
        fun uid hu => by
        obtain ⟨hu, -, hin⟩ := mem_awake.1 hu
        exact ⟨hpair uid hin, fun heq => hempty (Uid.value_inj.1 heq ▸ hu)⟩
      cases hquick : config.quickFind with
      | false =>
        rw [crowdSize, hquick] at crowded
        obtain ⟨uid, hu⟩ := Finset.card_pos.1 crowded
        exact ⟨rfl, uid, (mem_awake.1 hu).1, (hother uid hu).1⟩
      | true =>
        rw [crowdSize, hquick] at crowded
        obtain ⟨first, hfirst, second, hsecond, hne⟩ := Finset.one_lt_card.1 crowded
        obtain ⟨h1, h1'⟩ := hother first hfirst
        obtain ⟨h2, h2'⟩ := hother second hsecond
        exact absurd (Uid.value_inj.1 (by omega)) hne

/-! ### Where devices are reported -/

/-- Nobody has the identifier `site`, but somebody has the other one of its pair, and the device `uid` has the
reverse. -/
structure Misleads (P : Finset Uid) (site uid : Uid) : Prop where
  empty : site ∉ P
  beside : ∃ other ∈ P, other.value / 2 = site.value / 2
  reverse : site.swapBytes = some uid

/-- The device that answers when the search mutes the one with the identifier `site`. -/
def answererAt (P : Finset Uid) (site : Uid) : Uid := if site ∈ P then site else site.swapBytes.getD site

private theorem answererAt_of_mem (h : site ∈ P) : answererAt P site = site := if_pos h

private theorem answererAt_of_takenFor (h : TakenFor config P site uid) (hu : uid ∈ P) : answererAt P site = uid := by
  rcases h with rfl | ⟨-, hempty, -, hreverse⟩
  · exact answererAt_of_mem hu
  · rw [answererAt, if_neg hempty, hreverse]
    rfl

/-- The reports were made at the sites, in ascending order, and all pending branches are above them. -/
structure Sited (config : SearchConfig) (R : Uid → σ → Finset Uid → Prop) (P : Finset Uid) (sites : List Uid)
    (pending : List Branch) (s : Search σ) : Prop extends Covers R P pending s where
  reports : s.found = sites.map (answererAt P)
  ascending : sites.Pairwise fun a b => a.value < b.value
  ahead : ∀ site ∈ sites, ∀ b ∈ pending, site.value < b.lower
  reached : ∀ b ∈ pending, Reached config P b
  misled : ∀ site ∈ sites, site ∉ P → config.swapFallback = true ∧ config.quickFind = false ∧ ∃ uid ∈ P,
    Misleads P site uid

private theorem sited_whole (hP : ∀ uid ∈ P, uid.Valid) (hf : s.found = [])
    (hR : R s.controller.uid s.controller.link ∅) :
    Sited config R P [] [.whole] s where
  toCovers := covers_whole hP hf hR
  reports := hf
  ascending := .nil
  ahead := nofun
  reached := List.forall_mem_singleton.2 .whole
  misled := nofun

/-- The halves of a crowded branch can be searched. -/
private theorem Sited.split {lower upper : Branch} (h : Sited config R P sites (b :: rest) s)
    (hnews : Reported R P s.found.toFinset [] s s') (crowded : crowdSize config ≤ (awake P s.found.toFinset b).card)
    (hs : b.split = some (lower, upper)) (hlower : lower.lower = b.lower) (hupper : b.lower < upper.lower) :
    Sited config R P sites (lower :: upper :: rest) s' where
  toCovers := h.toCovers.split hnews hs
  reports := by rw [hnews.found, List.append_nil, h.reports]
  ascending := h.ascending
  ahead site hsite := by
    have hb := h.ahead site hsite b List.mem_cons_self
    refine List.forall_mem_cons.2 ⟨by omega, List.forall_mem_cons.2 ⟨by omega, fun c hc => ?_⟩⟩
    exact h.ahead site hsite c (List.mem_cons_of_mem _ hc)
  reached := by
    have hb := h.reached b List.mem_cons_self
    have hall : (awake P s.found.toFinset b).card ≤ (awake P ∅ b).card := Finset.card_le_card fun uid hu => by
      obtain ⟨hu, -, hin⟩ := mem_awake.1 hu
      exact mem_awake.2 ⟨hu, Finset.notMem_empty uid, hin⟩
    have hcrowd := Nat.le_trans crowded hall
    refine List.forall_mem_cons.2 ⟨hb.half hcrowd hs (.inl rfl),
      List.forall_mem_cons.2 ⟨hb.half hcrowd hs (.inr rfl), fun c hc => ?_⟩⟩
    exact h.reached c (List.mem_cons_of_mem _ hc)
  misled := h.misled

/-- A branch without a device that is awake is given up. -/
private theorem Sited.drop (h : Sited config R P sites (b :: rest) s) (hnews : Reported R P s.found.toFinset [] s s')
    (hawake : awake P (s.found.toFinset ∪ ([] : List Uid).toFinset) b = ∅) : Sited config R P sites rest s' where
  toCovers := h.toCovers.drop hnews hawake
  reports := by rw [hnews.found, List.append_nil, h.reports]
  ascending := h.ascending
  ahead site hsite c hc := h.ahead site hsite c (List.mem_cons_of_mem _ hc)
  reached c hc := h.reached c (List.mem_cons_of_mem _ hc)
  misled := h.misled

/-- The site of a report lies in the branch that is visited, so it comes after the others. -/
private theorem Sited.report (h : Sited config R P sites (b :: rest) s)
    (hnews : Reported R P s.found.toFinset [uid] s s') (hawake : awake P (s.found.toFinset ∪ [uid].toFinset) b = ∅)
    (hbelow : ∀ c ∈ rest, b.upper < c.lower) (hin : b.contains site = true) (htaken : TakenFor config P site uid)
    (hleaf : b.isLeaf = true ∨ site = uid) :
    Sited config R P (sites ++ [site]) rest s' where
  toCovers := h.toCovers.drop hnews hawake
  reports := by
    rw [hnews.found, List.map_append, h.reports, List.map_singleton,
      answererAt_of_takenFor htaken (hnews.mem uid List.mem_cons_self)]
  ascending := by
    refine List.pairwise_append.2 ⟨h.ascending, List.pairwise_singleton _ _, fun a ha c hc => ?_⟩
    obtain rfl := List.mem_singleton.1 hc
    exact Nat.lt_of_lt_of_le (h.ahead a ha b List.mem_cons_self) (Branch.contains_iff.1 hin).1
  ahead a ha c hc := by
    rcases List.mem_append.1 ha with ha | ha
    · exact h.ahead a ha c (List.mem_cons_of_mem _ hc)
    · obtain rfl := List.mem_singleton.1 ha
      exact Nat.lt_of_le_of_lt (Branch.contains_iff.1 hin).2 (hbelow c hc)
  reached c hc := h.reached c (List.mem_cons_of_mem _ hc)
  misled a ha hempty := by
    rcases List.mem_append.1 ha with ha | ha
    · exact h.misled a ha hempty
    · obtain rfl := List.mem_singleton.1 ha
      have hu := hnews.mem uid List.mem_cons_self
      rcases htaken with rfl | ⟨hfallback, -, hvalid, hreverse⟩
      · exact absurd hu hempty
      · rcases hleaf with hl | rfl
        · obtain ⟨hquick, hbeside⟩ := (h.reached b List.mem_cons_self).beside hl hin hvalid hempty
          exact ⟨hfallback, hquick, uid, hu, hempty, hbeside, hreverse⟩
        · exact absurd hu hempty

private theorem sited_keptByVisits (config : SearchConfig) (hbus : IdealBus link P R) (hP : ∀ uid ∈ P, uid.Valid) :
    KeptByVisits config link fun pending s => ∃ sites, Sited config R P sites pending s := by
  rintro b rest s hst ⟨sites, h⟩
  cases hst with
  | cons ordered inside narrow below others =>
    obtain ⟨again, s', news, hs', hnews, hagain, hdone⟩ := visit_ideal config hbus hP ordered inside h.muted
    refine ⟨again, s', hs', fun ha => ?_, fun ha => ?_⟩
    · obtain ⟨hleaf, rfl, crowded⟩ := hagain ha
      exact ⟨hleaf, fun lower upper hs hlower hupper => ⟨sites, h.split hnews crowded hs hlower hupper⟩⟩
    · obtain ⟨hone, hall, hsite⟩ := hdone ha
      have hawake : awake P (s.found.toFinset ∪ news.toFinset) b = ∅ :=
        Finset.eq_empty_of_forall_notMem fun uid hu => by
        obtain ⟨hu, hmuted, hin⟩ := mem_awake.1 hu
        rw [Finset.mem_union, not_or, List.mem_toFinset (l := news)] at hmuted
        exact hmuted.2 (hall uid (mem_awake.2 ⟨hu, hmuted.1, hin⟩))
      match news, hone with
      | [], _ => exact ⟨sites, h.drop hnews hawake⟩
      | [uid], _ =>
        obtain ⟨site, hin, htaken, hleaf⟩ := hsite uid List.mem_cons_self
        exact ⟨sites ++ [site], h.report hnews hawake below hin htaken hleaf⟩

theorem nodup_of_ascending {uids : List Uid} (h : uids.Pairwise fun a b => a.value < b.value) : uids.Nodup :=
  h.imp fun hlt heq => by rw [heq] at hlt; exact absurd hlt (Nat.lt_irrefl _)

/-- A device is reported at its own identifier or at its reverse. -/
private theorem Sited.answerer (h : Sited config R P sites pending s) (hsite : site ∈ sites)
    (huid : answererAt P site = uid) :
    site = uid ∨ (config.quickFind = false ∧ Misleads P site uid) := by
  by_cases hmem : site ∈ P
  · exact .inl ((answererAt_of_mem hmem).symm.trans huid)
  · obtain ⟨-, hquick, other, -, hmisleads⟩ := h.misled site hsite hmem
    rw [answererAt, if_neg hmem, hmisleads.reverse] at huid
    obtain rfl : other = uid := huid
    exact .inr ⟨hquick, hmisleads⟩

private theorem Sited.count_le (h : Sited config R P sites pending s) (uid : Uid) :
    s.found.count uid ≤ 2 ∧ (1 < s.found.count uid → config.quickFind = false ∧ ∃ site, Misleads P site uid) := by
  -- the sites of the device
  let own := sites.filter fun site => answererAt P site == uid
  have hown : ∀ site ∈ own, site = uid ∨ (config.quickFind = false ∧ Misleads P site uid) := fun site hsite => by
    obtain ⟨hsite, huid⟩ := List.mem_filter.1 hsite
    exact h.answerer hsite (beq_iff_eq.1 huid)
  have hcount : s.found.count uid = own.length := by
    rw [h.reports, List.count, List.countP_map, List.countP_eq_length_filter]
    rfl
  have hnodup : own.Nodup := (nodup_of_ascending h.ascending).filter _
  rw [hcount]
  by_cases hother : ∃ site ∈ own, site ≠ uid
  · obtain ⟨site, hsite, hne⟩ := hother
    obtain ⟨hquick, hmisleads⟩ := (hown site hsite).resolve_left hne
    have hsub : own ⊆ [uid, site] := fun another ha => by
      rcases hown another ha with rfl | ⟨-, hagain⟩
      · exact List.mem_cons_self
      · rw [Uid.swapBytes_inj hagain.reverse hmisleads.reverse]
        exact List.mem_cons_of_mem _ List.mem_cons_self
    exact ⟨(hnodup.subperm hsub).length_le, fun _ => ⟨hquick, site, hmisleads⟩⟩
  · have hsub : own ⊆ [uid] := fun site hsite => by
      by_contra hne
      exact hother ⟨site, hsite, fun heq => hne (List.mem_singleton.2 heq)⟩
    have hone : own.length ≤ 1 := (hnodup.subperm hsub).length_le
    exact ⟨Nat.le_succ_of_le hone, fun hmore => absurd hmore (by omega)⟩

/-- Unless the search is misled all devices are reported at their own identifiers, in their order. -/
theorem Sited.found_ascending (h : Sited config R P sites pending s)
    (hclear : config.swapFallback = false ∨ config.quickFind = true ∨ ∀ site, ∀ uid ∈ P, ¬Misleads P site uid) :
    s.found.Pairwise fun a b => a.value < b.value := by
  have hmem : ∀ site ∈ sites, site ∈ P := fun site hsite => by
    by_contra hempty
    obtain ⟨hfallback, hquick, uid, hu, hmisleads⟩ := h.misled site hsite hempty
    rcases hclear with hoff | hon | hnone
    · rw [hoff] at hfallback; cases hfallback
    · rw [hon] at hquick; cases hquick
    · exact hnone site uid hu hmisleads
  have hsites : sites.map (answererAt P) = sites :=
    (List.map_congr_left fun site hsite => answererAt_of_mem (hmem site hsite)).trans (List.map_id sites)
  rw [h.reports, hsites]
  exact h.ascending

/-! ### Searches of limited length -/

/-- The outcome of a search that visits less than `rounds` branches. -/
def searchFor (config : SearchConfig) (link : ControllerLink σ ε) :
    Nat → BranchStack → Search σ → Option (Except (ControllerError ε) Unit × Search σ)
  | 0, _, _ => none
  | _ + 1, ⟨[]⟩, s => some (.ok (), s)
  | rounds + 1, ⟨b :: rest⟩, s =>
    match (visit config link b).runFrom s with
    | (.error e, s) => some (.error e, s)
    | (.ok again, s) => searchFor config link rounds (BranchStack.afterVisit ⟨rest⟩ b again) s

private theorem searchAll_of_searchFor {stack : BranchStack} (hst : Stacked stack.pending) {rounds : Nat}
    {outcome : Except (ControllerError ε) Unit × Search σ} (h : searchFor config link rounds stack s = some outcome) :
    (searchAll config link stack).runFrom s = outcome := by
  induction rounds generalizing stack s with
  | zero => cases h
  | succ rounds ih =>
    obtain ⟨_ | ⟨b, rest⟩⟩ := stack
    · obtain rfl := Option.some.inj h
      rw [searchAll]
      rfl
    · rw [searchFor] at h
      rcases hv : (visit config link b).runFrom s with ⟨e | again, s'⟩
      · rw [hv] at h
        obtain rfl := Option.some.inj h
        exact searchAll_of_failure hst hv
      · rw [hv] at h
        rw [searchAll_of_visit hst hv]
        exact ih (hst.afterVisit again) h

end Search

namespace Controller

variable {σ ε : Type} {link : ControllerLink σ ε} {P M : Finset Uid} {R : Uid → σ → Finset Uid → Prop}

/-- A search of limited length tells what a search reports. -/
private theorem discover_of_searchFor {config : SearchConfig} {c c' : Controller σ} {reply : Option MuteReply}
    (found : List Uid) (rounds : Nat) (hready : (unMute link .broadcast).runFrom c = (.ok reply, c'))
    (h : (Search.searchFor config link rounds .whole ⟨c', []⟩).map
      (fun outcome => (outcome.1.toOption, outcome.2.found)) =
      some (some (), found)) :
    ∃ c'', c.discover config link = (.ok found.length, found, c'') := by
  obtain ⟨⟨result, s⟩, hs, houtcome⟩ := Option.map_eq_some_iff.1 h
  have hrun := Search.searchAll_of_searchFor stacked_whole hs
  cases result with
  | error e => cases houtcome
  | ok done =>
    obtain rfl : s.found = found := congrArg Prod.snd houtcome
    exact ⟨s.controller, discover_of_ok config hready hrun⟩

theorem exists_sited (config : SearchConfig) (hbus : IdealBus link P R) (hP : ∀ uid ∈ P, uid.Valid) (c : Controller σ)
    (hR : R c.uid c.link M) : ∃ s sites, c.discover config link = (.ok s.found.length, s.found, s.controller) ∧
      Search.Sited config R P sites [] s := by
  obtain ⟨s, hs, sites, hsited⟩ := Search.whole_run hbus.toMutingBus
    (fun _ hf hR => ⟨[], Search.sited_whole hP hf hR⟩)
    (Search.sited_keptByVisits config hbus hP) hR
  exact ⟨s, sites, by rw [discover, hs], hsited⟩

/-- On an ideal bus the fallback to reversed identifiers loses no device and makes none up, and no device is reported
more than twice.  With quick find it changes nothing.  Without it the search can be misled where an identifier is
free, somebody has the other one of the pair, and a device has the reverse; if there is no such place, the fallback
changes nothing either, and only where there is one a device is reported twice. -/
theorem discover_fallback (config : SearchConfig) (hbus : IdealBus link P R) (hP : ∀ uid ∈ P, uid.Valid)
    (c : Controller σ) (hR : R c.uid c.link M) : ∃ plain found c₁ c₂,
      c.discover { config with swapFallback := false } link = (.ok P.card, plain, c₁) ∧ plain.Nodup ∧
      (∀ uid, uid ∈ plain ↔ uid ∈ P) ∧
      c.discover { config with swapFallback := true } link = (.ok found.length, found, c₂) ∧
      (∀ uid, uid ∈ found ↔ uid ∈ P) ∧ R c₂.uid c₂.link P ∧ (∀ uid, found.count uid ≤ 2) ∧
      (∀ uid, 1 < found.count uid → config.quickFind = false ∧ ∃ site, Search.Misleads P site uid) ∧
      ((config.quickFind = true ∨ ∀ site, ∀ uid ∈ P, ¬Search.Misleads P site uid) → found = plain ∧
        found.length = P.card) := by
  obtain ⟨s₁, _, hs₁, hplain⟩ := exists_sited { config with swapFallback := false } hbus hP c hR
  obtain ⟨s₂, _, hs₂, hsited⟩ := exists_sited { config with swapFallback := true } hbus hP c hR
  have hascending := hplain.found_ascending (.inl rfl)
  have hnodup := Search.nodup_of_ascending hascending
  have hcard : s₁.found.length = P.card := by rw [← hplain.toFinset_found, List.toFinset_card_of_nodup hnodup]
  refine ⟨s₁.found, s₂.found, s₁.controller, s₂.controller, hcard ▸ hs₁, hnodup, hplain.mem_found, hs₂,
    hsited.mem_found, hsited.toFinset_found ▸ hsited.muted, fun uid => (hsited.count_le uid).1,
    fun uid => (hsited.count_le uid).2, fun hclear => ?_⟩
  -- both lists are in ascending order and have the same members
  have hascending' := hsited.found_ascending (.inr hclear)
  have hperm : s₂.found.Perm s₁.found := (List.perm_ext_iff_of_nodup (Search.nodup_of_ascending hascending') hnodup).2
    fun uid => by rw [hsited.mem_found, hplain.mem_found]
  exact ⟨hperm.eq_of_pairwise (fun a b _ _ hab hba => absurd hab (Nat.lt_asymm hba)) hascending' hascending,
    hperm.length_eq.trans hcard⟩

/-- The first of two devices has the reverse of an identifier that nobody has, and that is beside the second one's. -/
def mirrored : Controller (Simulation.Population Malformed) := ⟨⟨0x4D4C, 1⟩, 1, 0, .fresh id [⟨0, 1⟩, ⟨0x0100, 1⟩]⟩

private theorem holds_mirrored : mirrored.link.Holds id [⟨0, 1⟩, ⟨0x0100, 1⟩].toFinset ∅ :=
  Simulation.Population.holds_fresh id (by decide)

theorem discover_fallback_mirrored : ∃ plain found c₁ c₂,
    mirrored.discover ⟨true, false, 3⟩ Simulation.Population.link = (.ok 2, plain, c₁) ∧
      mirrored.discover ⟨true, true, 3⟩ Simulation.Population.link = (.ok 2, found, c₂) ∧ found = plain := by
  obtain ⟨plain, found, c₁, c₂, hplain, -, -, hfound, -, -, -, -, hsame⟩ :=
    discover_fallback ⟨true, false, 3⟩ (Simulation.Population.idealBus _) (by decide) mirrored holds_mirrored
  obtain ⟨heq, hcount⟩ := hsame (.inl rfl)
  rw [hcount] at hfound
  exact ⟨plain, found, c₁, c₂, hplain, hfound, heq⟩

/-- Without quick find the same two devices mislead the search: the first one is reported again when the search comes
to the free identifier beside the second. -/
theorem reported_twice :
    let P : Finset Uid := [⟨0, 1⟩, ⟨0x0100, 1⟩].toFinset
    IdealBus Simulation.Population.link P (fun _ (p : Simulation.Population Malformed) M => p.Holds id P M) ∧
      (∀ uid ∈ P, uid.Valid) ∧ mirrored.link.Holds id P ∅ ∧
      (∃ c, mirrored.discover ⟨false, false, 1⟩ Simulation.Population.link = (.ok 2, [⟨0, 1⟩, ⟨0x0100, 1⟩], c)) ∧
      ∃ c, mirrored.discover ⟨false, true, 1⟩ Simulation.Population.link =
        (.ok 3, [⟨0, 1⟩, ⟨0, 1⟩, ⟨0x0100, 1⟩], c) :=
  ⟨Simulation.Population.idealBus _, by decide, holds_mirrored,
    discover_of_searchFor [⟨0, 1⟩, ⟨0x0100, 1⟩] 200 rfl (by decide +kernel),
    discover_of_searchFor [⟨0, 1⟩, ⟨0, 1⟩, ⟨0x0100, 1⟩] 200 rfl (by decide +kernel)⟩

end Controller

end LightBus
