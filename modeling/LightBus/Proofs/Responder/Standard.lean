import LightBus.Proofs.Responder.Reachable

/-!
# The parameters that every device has

A device that was just set up has eleven parameters.  Three of them are stored: whether the device makes itself seen,
its start address, and its label (`standardParameters_eq`).  All of them are answered by the rules that every device
has (`hasStandardRules_create?`).
-/

namespace LightBus

variable {κ : Type}

/-- One of the rules that every device has. -/
def Handler.IsStandard : Handler κ → Prop
  | .custom _ => False
  | _ => True

/-- The device has no rules of its own. -/
def Device.HasStandardRules (device : Device κ) : Prop :=
  ∀ entry ∈ device.parameters.entries, entry.definition.handler.IsStandard

namespace Device

variable {device : Device κ} {config : DeviceConfig} {m : Metadata} {arena : List UInt8} {d : Dictionary κ}

theorem HasStandardRules.isStandard (h : device.HasStandardRules) {pid : ParameterId} {definition : Definition κ}
    (hdefinition : device.parameters.definition? pid = some definition) : definition.handler.IsStandard := by
  obtain ⟨entry, hentry, rfl⟩ := Option.map_eq_some_iff.1 hdefinition
  exact h entry (Dictionary.mem_of_entry? hentry).1

/-! ### The ones with values -/

theorem checkFields_byte : checkFields 0 [.byte] = .ok () := rfl

theorem checkFields_word : checkFields 0 [.word] = .ok () := rfl

theorem checkFields_text : checkFields 0 [.text] = .ok () := rfl

private theorem checkFields_info :
    checkFields 0 [.word, .word, .word, .dword, .word, .word, .word, .word, .byte] = .ok () := rfl

def identifyDefinition : Definition κ :=
  plainDefinition .identifyDevice ⟨[.byte], checkFields_byte⟩ .getSet .unsignedByte .identifyDevice

def startAddressDefinition : Definition κ :=
  plainDefinition .dmxStartAddress ⟨[.word], checkFields_word⟩ .getSet .unsignedWord .startAddress

def labelDefinition : Definition κ := plainDefinition .deviceLabel ⟨[.text], checkFields_text⟩ .getSet .text .stored

def infoDefinition : Definition κ := plainDefinition .deviceInfo
  ⟨[.word, .word, .word, .dword, .word, .word, .word, .word, .byte], checkFields_info⟩ .get .notDefined .deviceInfo

/-- The parameter that fetches the messages that wait. -/
def queuedMessageDefinition : Definition κ :=
  plainDefinition .queuedMessage ⟨[.byte], checkFields_byte⟩ .get .unsignedByte .queuedMessage

/-! ### Set-up -/

/-- The parameters of a device that was just set up. -/
def standardEntries : List (Entry κ) :=
  [⟨plainDefinition .discUniqueBranch .empty .discovery .notDefined .branchProbe, .computed, false⟩,
    ⟨plainDefinition .discMute .empty .discovery .notDefined .mute, .computed, false⟩,
    ⟨plainDefinition .discUnMute .empty .discovery .notDefined .mute, .computed, false⟩,
    ⟨infoDefinition, .computed, false⟩,
    ⟨plainDefinition .supportedParameters ⟨[.word], checkFields_word⟩ .get .unsignedWord .supportedParameters,
      .computed, false⟩,
    ⟨plainDefinition .parameterDescription Dictionary.descriptionSchema .get .notDefined .parameterDescription,
      .computed, false⟩,
    ⟨plainDefinition .softwareVersionLabel ⟨[.text], checkFields_text⟩ .get .text .softwareVersionLabel,
      .computed, false⟩,
    ⟨identifyDefinition, .owned 0 1, false⟩, ⟨startAddressDefinition, .owned 1 2, false⟩,
    ⟨labelDefinition, .owned 3 32, false⟩, ⟨queuedMessageDefinition, .computed, false⟩]

/-- The first values: the device does not make itself seen, and the start address is stored with its low byte
first. -/
def standardArena (m : Metadata) (arena : List UInt8) : List UInt8 :=
  overwrite (overwrite (overwrite arena 0 [0]) 1 (word m.startAddress.toWord).reverse) 3
    (padZero maxTextSize ((textBytes m.label).take maxTextSize))

theorem standardParameters_eq (h : standardParameters m (.empty arena) = .ok d) :
    d = ⟨standardArena m arena, minArenaSize, standardEntries, [], none⟩ := by
  unfold standardParameters at h
  obtain ⟨d1, h1, h⟩ := exists_of_bind_eq_ok h
  obtain ⟨d2, h2, h⟩ := exists_of_bind_eq_ok h
  obtain ⟨d3, h3, h⟩ := exists_of_bind_eq_ok h
  obtain ⟨d4, h4, h⟩ := exists_of_bind_eq_ok h
  obtain ⟨d5, h5, h⟩ := exists_of_bind_eq_ok h
  obtain ⟨d6, h6, h⟩ := exists_of_bind_eq_ok h
  obtain ⟨d7, h7, h⟩ := exists_of_bind_eq_ok h
  obtain ⟨d8, h8, h⟩ := exists_of_bind_eq_ok h
  obtain ⟨d9, h9, h⟩ := exists_of_bind_eq_ok h
  obtain ⟨d10, h10, h⟩ := exists_of_bind_eq_ok h
  obtain ⟨-, rfl⟩ := Dictionary.eq_of_defineComputed h1
  obtain ⟨-, rfl⟩ := Dictionary.eq_of_defineComputed h2
  obtain ⟨-, rfl⟩ := Dictionary.eq_of_defineComputed h3
  obtain ⟨-, rfl⟩ := Dictionary.eq_of_defineComputed h4
  obtain ⟨-, rfl⟩ := Dictionary.eq_of_defineComputed h5
  obtain ⟨-, rfl⟩ := Dictionary.eq_of_defineComputed h6
  obtain ⟨-, rfl⟩ := Dictionary.eq_of_defineComputed h7
  obtain ⟨-, -, rfl⟩ := Dictionary.eq_of_define h8
  obtain ⟨-, -, rfl⟩ := Dictionary.eq_of_define h9
  obtain ⟨-, -, rfl⟩ := Dictionary.eq_of_define h10
  obtain ⟨-, rfl⟩ := Dictionary.eq_of_defineComputed h
  rfl

theorem minArenaSize_le_of_create? (h : create? config arena = .ok device) : minArenaSize ≤ arena.length := by
  unfold create? at h
  split at h
  · cases h
  · rename_i hlong
    exact Nat.le_of_not_lt hlong

theorem parameters_create? (h : create? config arena = .ok device) :
    device.parameters = ⟨standardArena config.metadata arena, minArenaSize, standardEntries, [], none⟩ :=
  standardParameters_eq (create?_spec h).1

theorem hasStandardRules_create? (h : create? config arena = .ok device) : device.HasStandardRules := by
  intro entry hentry
  rw [parameters_create? h] at hentry
  simp only [standardEntries, List.mem_cons, List.not_mem_nil, or_false] at hentry
  rcases hentry with rfl | rfl | rfl | rfl | rfl | rfl | rfl | rfl | rfl | rfl | rfl
  all_goals trivial

/-- A lamp without rules of its own.  It has one byte of storage to spare. -/
def lampConfig : DeviceConfig := ⟨⟨0x05E0, 1⟩, [], ⟨1, 0, 0, "", 3, 0, .address 0x110, ""⟩⟩

def lamp : Device Empty :=
  ⟨⟨standardArena lampConfig.metadata (List.replicate 36 0), minArenaSize, standardEntries, [], none⟩,
    ⟨⟨0x05E0, 1⟩, [], lampConfig.metadata, false⟩⟩

theorem create?_lamp : create? lampConfig (List.replicate 36 0) = .ok lamp := rfl

theorem reachable_lamp : lamp.Reachable := reachable_create? (by decide) create?_lamp

theorem hasStandardRules_lamp : lamp.HasStandardRules := hasStandardRules_create? create?_lamp

/-- The lamp was made to identify itself at its own panel, and no controller has heard of it. -/
def identifiedLamp : Device Empty := { lamp with parameters := (lamp.parameters.setAndQueue .identifyDevice [1]).2 }

theorem reachable_identifiedLamp : identifiedLamp.Reachable :=
  ⟨reachable_lamp.parameters.setAndQueue _ _, reachable_lamp.uid⟩

theorem hasStandardRules_identifiedLamp : identifiedLamp.HasStandardRules := hasStandardRules_lamp

end Device

end LightBus
