/-!
# Parameter identifiers

The numbers of the parameters that the library serves itself.
-/

namespace LightBus

/-- The number that names a parameter. -/
abbrev ParameterId := UInt16

namespace ParameterId

def discUniqueBranch : ParameterId := 0x0001
def discMute : ParameterId := 0x0002
def discUnMute : ParameterId := 0x0003
def queuedMessage : ParameterId := 0x0020
def statusMessages : ParameterId := 0x0030
def supportedParameters : ParameterId := 0x0050
def parameterDescription : ParameterId := 0x0051
def deviceInfo : ParameterId := 0x0060
def deviceLabel : ParameterId := 0x0082
def softwareVersionLabel : ParameterId := 0x00C0
def dmxStartAddress : ParameterId := 0x00F0
def identifyDevice : ParameterId := 0x1000

/-- The numbers that every manufacturer may use as it likes. -/
def isManufacturerSpecific (pid : ParameterId) : Bool := 0x8000 ≤ pid && pid ≤ 0xFFDF

end ParameterId

end LightBus
