import LightBus.Bytes
import LightBus.Parameter
import LightBus.Run

/-!
# Dictionaries of parameters

A dictionary holds the parameters of a device in the order in which they were defined. An entry owns a part of a
common storage, looks into the storage of another entry (an alias), or has no storage at all. Entries are never
removed.

* `Dictionary.get?` and `Dictionary.set` reach the stored value in native form.
* `Dictionary.setAndQueue` and `Dictionary.popQueued` keep the parameters whose change a controller has not yet
  heard of, each at most once.
-/

namespace LightBus

/-- Where the value of a parameter is kept. -/
inductive Storage where
  | owned (start size : Nat)
  | alias (start size : Nat)
  /-- The value is computed when it is asked for. -/
  | computed
deriving DecidableEq

/-- First byte and size of the storage. -/
def Storage.range? : Storage → Option (Nat × Nat)
  | .owned start size | .alias start size => some (start, size)
  | .computed => none

/-- A parameter of the dictionary. -/
structure Entry (κ : Type) where
  definition : Definition κ
  storage : Storage
  /-- Somebody is told about every answered request for the parameter. -/
  observed : Bool

/-- Why a parameter cannot be defined or changed. -/
inductive DictionaryError where
  | alreadyDefined
  | full
  | outOfStorage
  | unknownParameter
  | offsetOutOfRange
  | noStorage
deriving DecidableEq

def DictionaryError.message : DictionaryError → String
  | .alreadyDefined => "parameter is already defined"
  | .full => "parameter table is full"
  | .outOfStorage => "parameter storage is exhausted"
  | .unknownParameter => "parameter is not defined"
  | .offsetOutOfRange => "alias offset out of range"
  | .noStorage => "aliased parameter has no storage"

def DictionaryError.kind : DictionaryError → String
  | .alreadyDefined => "AlreadyDefined"
  | .full => "Full"
  | .outOfStorage => "OutOfStorage"
  | .unknownParameter => "UnknownPid"
  | .offsetOutOfRange => "OffsetOutOfRange"
  | .noStorage => "NoStorage"

instance : Failure DictionaryError := ⟨DictionaryError.kind, DictionaryError.message⟩

/-- The parameters of a device. -/
structure Dictionary (κ : Type) where
  /-- The bytes that the owned values share. -/
  arena : List UInt8
  /-- How many of them are taken, from the first on. -/
  used : Nat
  entries : List (Entry κ)
  /-- Parameters with a change that no controller has fetched, the oldest first. -/
  queue : List ParameterId
  /-- The parameter that was fetched last. -/
  lastQueued : Option ParameterId

namespace Dictionary

variable {κ : Type}

/-- A dictionary without parameters that keeps values in `arena`. -/
def empty (arena : List UInt8) : Dictionary κ := ⟨arena, 0, [], [], none⟩

def entry? (d : Dictionary κ) (pid : ParameterId) : Option (Entry κ) :=
  d.entries.find? fun e => e.definition.parameterId == pid

def contains (d : Dictionary κ) (pid : ParameterId) : Bool := (d.entry? pid).isSome

def definition? (d : Dictionary κ) (pid : ParameterId) : Option (Definition κ) :=
  (d.entry? pid).map Entry.definition

/-- The parameters in the order in which they were defined. -/
def parameterIds (d : Dictionary κ) : List ParameterId := d.entries.map fun e => e.definition.parameterId

/-- Bytes of the arena that are still free. -/
def storageLeft (d : Dictionary κ) : Nat := d.arena.length - d.used

/-! ### Definition -/

def checkFree (d : Dictionary κ) (pid : ParameterId) : Except DictionaryError Unit :=
  if d.contains pid then .error .alreadyDefined
  else if dictionaryCapacity ≤ d.entries.length then .error .full
  else .ok ()

/-- Adds an entry behind the others. -/
def insert (entry : Entry κ) : Run (Dictionary κ) DictionaryError Unit := do
  let d ← MonadState.get
  .ofExcept (d.checkFree entry.definition.parameterId)
  modify fun d => { d with entries := d.entries ++ [entry] }

/-- Takes `size` bytes of the arena for a parameter and returns them; they begin with `value` and are zero after
it. -/
def allocate (definition : Definition κ) (size : Nat) (value : List UInt8) :
    Run (Dictionary κ) DictionaryError (List UInt8) := do
  let start := (← MonadState.get).used
  .ofExcept ((← MonadState.get).checkFree definition.parameterId)
  if (← MonadState.get).storageLeft < size then throw .outOfStorage
  modify fun d => { d with used := d.used + size }
  insert ⟨definition, .owned start size, false⟩
  modify fun d => { d with arena := overwrite d.arena start (padZero size (value.take size)) }
  return slice (← MonadState.get).arena start size

/-- Lets a parameter look into the storage of `target`, from its byte `offset` to the end, and returns what it
sees there. -/
def share (definition : Definition κ) (target : ParameterId) (offset : Nat) :
    Run (Dictionary κ) DictionaryError (List UInt8) := do
  let d ← MonadState.get
  .ofExcept (d.checkFree definition.parameterId)
  match d.entry? target with
  | none => throw .unknownParameter
  | some e =>
    match e.storage.range? with
    | none => throw .noStorage
    | some (start, size) =>
      if size < offset then throw .offsetOutOfRange
      insert ⟨definition, .alias (start + offset) (size - offset), false⟩
      return slice (← MonadState.get).arena (start + offset) (size - offset)

/-- The dictionary after a call that succeeds. -/
def after {α : Type} (d : Dictionary κ) (call : Run (Dictionary κ) DictionaryError α) :
    Except DictionaryError (Dictionary κ) :=
  match call.runFrom d with
  | (.ok _, d) => .ok d
  | (.error e, _) => .error e

/-- Defines a parameter with `size` bytes of its own, which begin with `value` and are zero after it. -/
def define (d : Dictionary κ) (definition : Definition κ) (size : Nat) (value : List UInt8) :
    Except DictionaryError (Dictionary κ) :=
  d.after (allocate definition size value)

/-- Defines a parameter that looks into the storage of `target`, from its byte `offset` to the end. -/
def defineAlias (d : Dictionary κ) (definition : Definition κ) (target : ParameterId) (offset : Nat) :
    Except DictionaryError (Dictionary κ) :=
  d.after (share definition target offset)

/-- Defines a parameter without storage. -/
def defineComputed (d : Dictionary κ) (definition : Definition κ) :
    Except DictionaryError (Dictionary κ) :=
  d.after (insert ⟨definition, .computed, false⟩)

/-- The entry of `pid` becomes `change` of it. -/
def updateEntry (d : Dictionary κ) (pid : ParameterId) (change : Entry κ → Entry κ) :
    Except DictionaryError (Dictionary κ) :=
  if d.contains pid then
    .ok { d with entries := d.entries.map fun e =>
      if e.definition.parameterId == pid then change e else e }
  else .error .unknownParameter

def setHandler (d : Dictionary κ) (pid : ParameterId) (handler : Handler κ) :
    Except DictionaryError (Dictionary κ) :=
  d.updateEntry pid fun e => { e with definition := { e.definition with handler } }

def setObserved (d : Dictionary κ) (pid : ParameterId) (observed : Bool) :
    Except DictionaryError (Dictionary κ) :=
  d.updateEntry pid fun e => { e with observed }

def isObserved (d : Dictionary κ) (pid : ParameterId) : Bool := (d.entry? pid).any Entry.observed

/-! ### Values -/

/-- First byte and size of the value of a parameter that has storage. -/
def range? (d : Dictionary κ) (pid : ParameterId) : Option (Nat × Nat) :=
  (d.entry? pid).bind fun e => e.storage.range?

/-- The stored value. -/
def get? (d : Dictionary κ) (pid : ParameterId) : Option (List UInt8) :=
  (d.range? pid).map fun (start, size) => slice d.arena start size

/-- What is written over a value of `size` bytes: text is cut at its first zero and padded with zeros, other data
leave the bytes after them alone. -/
def storedForm (dataType : DataType) (size : Nat) (data : List UInt8) : List UInt8 :=
  if dataType = .text then padZero size (untilZero size data) else data.take size

/-- Stores data, and tells how many bytes of them there was room for. -/
def set (d : Dictionary κ) (pid : ParameterId) (data : List UInt8) : Nat × Dictionary κ :=
  match d.entry? pid with
  | none => (0, d)
  | some e =>
    match e.storage.range? with
    | none => (0, d)
    | some (start, size) =>
      let stored := storedForm e.definition.description.dataType size data
      (min data.length size, { d with arena := overwrite d.arena start stored })

/-- Stores data. If there was room for a part of them, controllers are to hear of the change. -/
def setAndQueue (d : Dictionary κ) (pid : ParameterId) (data : List UInt8) : Nat × Dictionary κ :=
  let (count, d) := d.set pid data
  if count > 0 ∧ pid ∉ d.queue ∧ d.queue.length < queueCapacity then
    (count, { d with queue := d.queue ++ [pid] })
  else (count, d)

/-- The parameter whose change is the oldest that no controller has fetched. -/
def popQueued (d : Dictionary κ) : Option ParameterId × Dictionary κ :=
  match d.queue with
  | [] => (none, d)
  | pid :: rest => (some pid, { d with queue := rest, lastQueued := some pid })

/-- How many changes a controller can fetch; 255 stands for more. -/
def messageCount (d : Dictionary κ) : UInt8 := UInt8.ofNat (min d.queue.length 255)

/-! ### Description -/

/-- The value of PARAMETER_DESCRIPTION for a parameter of the manufacturer's own, in native form. -/
def describe? (d : Dictionary κ) (pid : ParameterId) : Option (List UInt8) :=
  if pid.isManufacturerSpecific then
    (d.definition? pid).map fun definition =>
      let about := definition.description
      (word pid).reverse ++
        [UInt8.ofNat definition.schema.size, about.dataType.code, definition.access.code, 0, about.units,
          about.scale] ++
        (dword about.minimum).reverse ++ (dword about.maximum).reverse ++ (dword about.standard).reverse ++
        padZero maxTextSize ((textBytes about.text).take maxTextSize)
  else none

/-- The fields of PARAMETER_DESCRIPTION. -/
def descriptionSchema : Schema where
  fields := [.word, .byte, .byte, .byte, .byte, .byte, .byte, .dword, .dword, .dword, .text]
  checked := rfl

end Dictionary

end LightBus
