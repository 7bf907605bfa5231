import LightBus.Command
import LightBus.ParameterId
import LightBus.Schema

/-!
# Parameters

What a device knows about one of its parameters: the fields of its value, the commands it allows, what it tells
controllers about it, and who answers requests for it.
-/

namespace LightBus

/-- What the value of a parameter stands for. -/
inductive DataType where
  | notDefined | bitField | text | unsignedByte | signedByte | unsignedWord | signedWord | unsignedDword
  | signedDword
deriving DecidableEq

def DataType.code : DataType → UInt8
  | .notDefined => 0
  | .bitField => 1
  | .text => 2
  | .unsignedByte => 3
  | .signedByte => 4
  | .unsignedWord => 5
  | .signedWord => 6
  | .unsignedDword => 7
  | .signedDword => 8

def DataType.ofCode? : UInt8 → Option DataType
  | 0 => some .notDefined
  | 1 => some .bitField
  | 2 => some .text
  | 3 => some .unsignedByte
  | 4 => some .signedByte
  | 5 => some .unsignedWord
  | 6 => some .signedWord
  | 7 => some .unsignedDword
  | 8 => some .signedDword
  | _ => none

/-- What a device tells about a parameter. -/
structure Description where
  dataType : DataType
  units : UInt8
  /-- The power of ten that the value is counted in. -/
  scale : UInt8
  minimum : UInt32
  maximum : UInt32
  standard : UInt32
  text : String
deriving DecidableEq

/-- A description that gives the type only. -/
def Description.ofType (dataType : DataType) : Description := ⟨dataType, 0, 0, 0, 0, 0, ""⟩

/-- Who answers the requests for a parameter: one of the rules that every device has, or a rule `κ` of the
device's own. -/
inductive Handler (κ : Type) where
  /-- The stored value is told and replaced. -/
  | stored
  | branchProbe
  | mute
  | deviceInfo
  | supportedParameters
  | parameterDescription
  | softwareVersionLabel
  | identifyDevice
  | startAddress
  | queuedMessage
  | custom (rule : κ)

/-- A parameter as the device defines it. -/
structure Definition (κ : Type) where
  parameterId : ParameterId
  schema : Schema
  access : Access
  description : Description
  handler : Handler κ

end LightBus
