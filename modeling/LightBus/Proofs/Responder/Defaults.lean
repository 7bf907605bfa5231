import LightBus.Proofs.Dictionary.Calls
import LightBus.Proofs.Dictionary.Values
import LightBus.Proofs.Responder.Standard

/-!
# The storage that every device has

The three parameters that every device stores have the first bytes of the arena, and all others lie behind them,
unless an alias looks into one of the three (`Dictionary.HasDefaults`).  So what a program does with the other
parameters leaves their values alone (`Dictionary.spares_perform`), and storing one of them leaves the other two
(`Dictionary.HasDefaults.get?_set`).
-/

namespace LightBus

variable {κ : Type}

namespace Dictionary

open Device

variable {d d' : Dictionary κ} {pid other : ParameterId} {definition : Definition κ} {storage : Storage}
  {entry : Entry κ} {start size : Nat} {data : List UInt8}

/-- The parameters that every device stores. -/
def storedDefaults : List ParameterId := [.identifyDevice, .dmxStartAddress, .deviceLabel]

/-- Where they are stored.  What the device tells about itself includes one of them. -/
def defaultPlaces : List (Definition κ × Storage) :=
  [(identifyDefinition, .owned 0 1), (startAddressDefinition, .owned 1 2), (labelDefinition, .owned 3 32),
    (infoDefinition, .computed)]

/-- The parameters that every device stores have the first storage to themselves, and are answered as in the
beginning. -/
structure HasDefaults (d : Dictionary κ) : Prop where
  reachable : d.Reachable
  used : minArenaSize ≤ d.used
  defaults {definition : Definition κ} {storage : Storage} (h : (definition, storage) ∈ defaultPlaces) :
    ∃ observed, d.entry? definition.parameterId = some ⟨definition, storage, observed⟩
  behind {pid : ParameterId} (h : pid ∉ storedDefaults) {start size : Nat}
    (hrange : d.range? pid = some (start, size)) :
    minArenaSize ≤ start

/-- The values that every device stores are as they were, and so are their places. -/
structure Spares (d d' : Dictionary κ) : Prop where
  defaults : d'.HasDefaults
  values {pid : ParameterId} (h : pid ∈ storedDefaults) : d'.get? pid = d.get? pid

namespace HasDefaults

private theorem definition? (hd : d.HasDefaults) (h : (definition, storage) ∈ defaultPlaces) :
    d.definition? definition.parameterId = some definition := by
  obtain ⟨observed, hentry⟩ := hd.defaults h
  exact definition?_of_entry? hentry

private theorem range? (hd : d.HasDefaults) (h : (definition, storage) ∈ defaultPlaces) :
    d.range? definition.parameterId = storage.range? := by
  obtain ⟨observed, hentry⟩ := hd.defaults h
  rw [Dictionary.range?, hentry, Option.bind_some]

theorem identify (hd : d.HasDefaults) :
    d.definition? .identifyDevice = some identifyDefinition ∧ d.range? .identifyDevice = some (0, 1) :=
  have hplace : (identifyDefinition, .owned 0 1) ∈ (defaultPlaces : List (Definition κ × Storage)) := by
    simp [defaultPlaces]
  ⟨hd.definition? hplace, hd.range? hplace⟩

theorem startAddress (hd : d.HasDefaults) :
    d.definition? .dmxStartAddress = some startAddressDefinition ∧ d.range? .dmxStartAddress = some (1, 2) :=
  have hplace : (startAddressDefinition, .owned 1 2) ∈ (defaultPlaces : List (Definition κ × Storage)) := by
    simp [defaultPlaces]
  ⟨hd.definition? hplace, hd.range? hplace⟩

theorem label (hd : d.HasDefaults) :
    d.definition? .deviceLabel = some labelDefinition ∧ d.range? .deviceLabel = some (3, 32) :=
  have hplace : (labelDefinition, .owned 3 32) ∈ (defaultPlaces : List (Definition κ × Storage)) := by
    simp [defaultPlaces]
  ⟨hd.definition? hplace, hd.range? hplace⟩

theorem info (hd : d.HasDefaults) : d.definition? .deviceInfo = some infoDefinition :=
  have hplace : (infoDefinition, .computed) ∈ (defaultPlaces : List (Definition κ × Storage)) := by
    simp [defaultPlaces]
  hd.definition? hplace

private theorem range?_cases (hd : d.HasDefaults) (hpid : pid ∈ storedDefaults) :
    pid = .identifyDevice ∧ d.range? pid = some (0, 1) ∨ pid = .dmxStartAddress ∧ d.range? pid = some (1, 2) ∨
      pid = .deviceLabel ∧ d.range? pid = some (3, 32) := by
  simp only [storedDefaults, List.mem_cons, List.not_mem_nil, or_false] at hpid
  rcases hpid with rfl | rfl | rfl
  · exact .inl ⟨rfl, hd.identify.2⟩
  · exact .inr (.inl ⟨rfl, hd.startAddress.2⟩)
  · exact .inr (.inr ⟨rfl, hd.label.2⟩)

/-! ### Storing -/

/-- No other parameter shares a byte with one of the three. -/
private theorem apart (hd : d.HasDefaults) (hother : other ∈ storedDefaults) (hne : other ≠ pid)
    (hrange : d.range? pid = some (start, size)) {place : Nat × Nat} (hplace : d.range? other = some place) :
    Apart place (start, size) := by
  have hstorage : minArenaSize = 35 := rfl
  have hfirst : (pid ∉ storedDefaults ∧ minArenaSize ≤ start) ∨ pid = .identifyDevice ∧ (start, size) = (0, 1) ∨
      pid = .dmxStartAddress ∧ (start, size) = (1, 2) ∨ pid = .deviceLabel ∧ (start, size) = (3, 32) := by
    by_cases hpid : pid ∈ storedDefaults
    · have hcases := hd.range?_cases hpid
      rw [hrange] at hcases
      simpa only [Option.some.injEq, hpid, not_true_eq_false, false_and, false_or] using hcases
    · exact .inl ⟨hpid, hd.behind hpid hrange⟩
  have hsecond := hd.range?_cases hother
  rw [hplace] at hsecond
  simp only [Option.some.injEq, Prod.mk.injEq] at hfirst hsecond
  rintro i ⟨⟨hplace, hplace'⟩, hvalue, hvalue'⟩
  dsimp only at hvalue hvalue'
  rcases hsecond with ⟨rfl, rfl⟩ | ⟨rfl, rfl⟩ | ⟨rfl, rfl⟩ <;>
    rcases hfirst with ⟨-, hbehind⟩ | ⟨rfl, rfl, rfl⟩ | ⟨rfl, rfl, rfl⟩ | ⟨rfl, rfl, rfl⟩ <;>
      first
      | exact hne rfl
      | omega

theorem get?_set (hd : d.HasDefaults) (hother : other ∈ storedDefaults) (hne : other ≠ pid) (data : List UInt8) :
    (d.set pid data).2.get? other = d.get? other := by
  cases hrange : d.range? pid with
  | none => rw [set_of_no_range hrange]
  | some range =>
    obtain ⟨start, size⟩ := range
    exact get?_set_of_apart hd.reachable hrange (fun place hplace => hd.apart hother hne hrange hplace) data

private theorem of_entries (hd : d.HasDefaults) (hreachable : d'.Reachable) (hentries : d'.entries = d.entries)
    (hused : d'.used = d.used) : d'.HasDefaults := by
  have hsame := entry?_of_entries hentries
  refine ⟨hreachable, by rw [hused]; exact hd.used, fun hplace => ?_, fun {pid} hpid {start size} hrange => ?_⟩
  · rw [hsame]
    exact hd.defaults hplace
  · rw [Dictionary.range?, hsame] at hrange
    exact hd.behind hpid hrange

theorem set (hd : d.HasDefaults) (pid : ParameterId) (data : List UInt8) : (d.set pid data).2.HasDefaults :=
  hd.of_entries (hd.reachable.set pid data) (d.set_frame pid data).1 (d.sameLayout_set pid data).used

theorem spares_set (hd : d.HasDefaults) (hpid : pid ∉ storedDefaults) (data : List UInt8) :
    d.Spares (d.set pid data).2 :=
  ⟨hd.set pid data, fun hother => hd.get?_set hother (ne_of_mem_of_not_mem hother hpid) data⟩

/-! ### Other calls -/

/-- The values lie in the first bytes of the arena. -/
private theorem spares_of_take (hd : d.HasDefaults) (hd' : d'.HasDefaults)
    (harena : d'.arena.take minArenaSize = d.arena.take minArenaSize) : d.Spares d' := by
  refine ⟨hd', fun {pid} hpid => ?_⟩
  have hslice {start size : Nat} (hfits : start + size ≤ minArenaSize) :
      slice d'.arena start size = slice d.arena start size := by
    have hwithin (arena : List UInt8) : slice arena start size = slice (arena.take minArenaSize) start size := by
      rw [slice, slice, List.drop_take, List.take_take, Nat.min_eq_left (by omega)]
    rw [hwithin d'.arena, hwithin d.arena, harena]
  rcases hd.range?_cases hpid with ⟨rfl, hrange⟩ | ⟨rfl, hrange⟩ | ⟨rfl, hrange⟩
  · rw [get?_of_range? hrange, get?_of_range? hd'.identify.2, hslice (by decide)]
  · rw [get?_of_range? hrange, get?_of_range? hd'.startAddress.2, hslice (by decide)]
  · rw [get?_of_range? hrange, get?_of_range? hd'.label.2, hslice (by decide)]

private theorem spares_of_same (hd : d.HasDefaults) (hd' : d'.HasDefaults) (harena : d'.arena = d.arena) :
    d.Spares d' :=
  hd.spares_of_take hd' (by rw [harena])

theorem spares_self (hd : d.HasDefaults) : d.Spares d := ⟨hd, fun _ => rfl⟩

/-- A new parameter looks at nothing that one of the three stores. -/
private theorem extend (hd : d.HasDefaults) (hextends : d.Extends d' entry) (hreachable : d'.Reachable)
    (hused : d.used ≤ d'.used) (hbehind : ∀ start size, entry.storage.range? = some (start, size) →
      minArenaSize ≤ start) : d'.HasDefaults := by
  refine ⟨hreachable, Nat.le_trans hd.used hused, fun hplace => ?_, fun {pid} hpid {start size} hrange => ?_⟩
  · obtain ⟨observed, hentry⟩ := hd.defaults hplace
    exact ⟨observed, hextends.entry?_of_some hentry⟩
  · obtain ⟨found, hentry, hstorage⟩ := Option.bind_eq_some_iff.1 hrange
    rw [Dictionary.entry?, hextends.entries, List.find?_append, Option.or_eq_some_iff] at hentry
    rcases hentry with hold | ⟨-, hadded⟩
    · have hrange : d.range? pid = some (start, size) := by
        rw [Dictionary.range?, entry?, hold]
        exact hstorage
      exact hd.behind hpid hrange
    · obtain rfl := List.mem_singleton.1 (List.mem_of_find?_eq_some hadded)
      exact hbehind start size hstorage

private theorem spares_define (hd : d.HasDefaults) {value : List UInt8}
    (h : d.define definition size value = .ok d') : d.Spares d' := by
  have hextends := extends_define h
  have hreachable := hd.reachable.define h
  have hfits := hd.reachable.layout.used_le
  have hused := hd.used
  obtain ⟨-, -, rfl⟩ := eq_of_define h
  refine hd.spares_of_take (hd.extend hextends hreachable (Nat.le_add_right ..) fun start length hrange => ?_) ?_
  · obtain ⟨rfl, -⟩ := Prod.mk.inj (Option.some.inj hrange)
    exact hused
  · exact take_overwrite_of_le hused hfits

private theorem spares_defineAlias (hd : d.HasDefaults) {target : ParameterId} {offset : Nat}
    (htarget : target ∉ storedDefaults) (h : d.defineAlias definition target offset = .ok d') : d.Spares d' := by
  have hreachable := hd.reachable.defineAlias h
  obtain ⟨hfree, seen, start, length, hseen, hrange, -, rfl⟩ := eq_of_defineAlias h
  have hbehind : minArenaSize ≤ start :=
    hd.behind htarget (by rw [Dictionary.range?, hseen, Option.bind_some, hrange])
  refine hd.spares_of_same (hd.extend (extends_withEntry hfree) hreachable (Nat.le_refl _) fun first rest hlooks =>
    ?_) rfl
  obtain ⟨rfl, -⟩ := Prod.mk.inj (Option.some.inj hlooks)
  exact Nat.le_add_right_of_le hbehind

private theorem spares_defineComputed (hd : d.HasDefaults) (h : d.defineComputed definition = .ok d') :
    d.Spares d' := by
  have hextends := extends_defineComputed h
  have hreachable := hd.reachable.defineComputed h
  obtain ⟨-, rfl⟩ := eq_of_defineComputed h
  exact hd.spares_of_same (hd.extend hextends hreachable (Nat.le_refl _) (fun _ _ hrange => nomatch hrange)) rfl

private theorem spares_updateEntry (hd : d.HasDefaults) {change : Entry κ → Entry κ} (hreachable : d'.Reachable)
    (h : d.updateEntry pid change = .ok d') (hpid : ∀ e, (change e).definition.parameterId = e.definition.parameterId)
    (hstorage : ∀ e, (change e).storage = e.storage)
    (hkeeps : ∀ definition storage observed, (definition, storage) ∈ defaultPlaces → definition.parameterId = pid →
      ∃ observed', change ⟨definition, storage, observed⟩ = ⟨definition, storage, observed'⟩) : d.Spares d' := by
  obtain ⟨hranges, -, -⟩ := range?_updateEntry hpid hstorage h
  unfold updateEntry at h
  split at h
  case isFalse => cases h
  obtain rfl := Except.ok.inj h
  refine hd.spares_of_same ⟨hreachable, hd.used, fun {definition storage} hplace => ?_,
    fun {other} hother {start size} hrange => ?_⟩ rfl
  · obtain ⟨observed, hentry⟩ := hd.defaults hplace
    rw [entry?_map (fun e => if e.definition.parameterId == pid then change e else e) _ rfl, hentry, Option.map_some]
    · by_cases hsame : definition.parameterId = pid
      · obtain ⟨observed', hchange⟩ := hkeeps definition storage observed hplace hsame
        exact ⟨observed', by rw [if_pos (by simpa using hsame), hchange]⟩
      · exact ⟨observed, by rw [if_neg (by simpa using hsame)]⟩
    · intro e
      split
      · exact hpid e
      · rfl
  · rw [hranges] at hrange
    exact hd.behind hother hrange

end HasDefaults

/-- The call neither stores one of the three nor looks into its storage, and what answers for the defaults stays. -/
def Call.SparesDefaults : Call κ → Prop
  | .define .. | .defineComputed .. | .setObserved .. | .popQueued => True
  | .defineAlias _ target _ => target ∉ storedDefaults
  | .setHandler pid _ => pid ∉ storedDefaults ∧ pid ≠ .deviceInfo
  | .set pid _ | .setAndQueue pid _ => pid ∉ storedDefaults

theorem HasDefaults.spares_popQueued (hd : d.HasDefaults) : d.Spares d.popQueued.2 := by
  obtain ⟨hentries, harena, hused⟩ := d.popQueued_frame
  exact hd.spares_of_same (hd.of_entries hd.reachable.popQueued hentries hused) harena

/-- A program that leaves the defaults alone leaves their values as they are. -/
theorem spares_perform (hd : d.HasDefaults) (call : Call κ) (hcall : call.SparesDefaults) :
    d.Spares (d.perform call) := by
  have hreachable := (hd.reachable.perform call).1
  rcases d.perform_cases call with hsame | hperformed
  · rw [hsame]
    exact hd.spares_self
  generalize d.perform call = d' at hreachable hperformed ⊢
  cases hperformed with
  | define hresult => exact hd.spares_define hresult
  | defineAlias hresult => exact hd.spares_defineAlias hcall hresult
  | defineComputed hresult => exact hd.spares_defineComputed hresult
  | setHandler hresult =>
    refine hd.spares_updateEntry hreachable hresult (fun _ => rfl) (fun _ => rfl)
      fun definition storage observed hplace hpid => ?_
    obtain ⟨hstored, hinfo⟩ := hcall
    rw [← hpid] at hstored hinfo
    simp only [defaultPlaces, List.mem_cons, Prod.mk.injEq, List.not_mem_nil, or_false] at hplace
    rcases hplace with ⟨rfl, -⟩ | ⟨rfl, -⟩ | ⟨rfl, -⟩ | ⟨rfl, -⟩
    · exact absurd (show ParameterId.identifyDevice ∈ storedDefaults by decide) hstored
    · exact absurd (show ParameterId.dmxStartAddress ∈ storedDefaults by decide) hstored
    · exact absurd (show ParameterId.deviceLabel ∈ storedDefaults by decide) hstored
    · exact absurd rfl hinfo
  | @setObserved _ pid observed hresult =>
    exact hd.spares_updateEntry hreachable hresult (fun _ => rfl) (fun _ => rfl) fun _ _ _ _ _ => ⟨observed, rfl⟩
  | set pid data => exact hd.spares_set hcall data
  | setAndQueue pid data =>
    obtain ⟨hentries, harena, hused⟩ := d.setAndQueue_frame pid data
    have hset := hd.spares_set hcall data
    exact ⟨hset.defaults.of_entries hreachable hentries hused,
      fun hother => (get?_of_same hentries harena _).trans (hset.values hother)⟩
  | popQueued => exact hd.spares_popQueued

end Dictionary

end LightBus
