import LightBus.StartAddress

/-!
# Device information

The parameter data of DEVICE_INFO: nineteen bytes that begin with the version of the protocol.
-/

namespace LightBus

/-- What a device tells about itself. -/
structure DeviceInfo where
  model : UInt16
  category : UInt16
  softwareVersion : UInt32
  /-- How many levels the device takes. -/
  footprint : UInt16
  /-- The current personality above their count. -/
  personality : UInt16
  startAddress : StartAddress
  subDevices : UInt16
  sensors : UInt8
deriving DecidableEq

namespace DeviceInfo

/-- The version of the protocol that is written: 1.0. -/
def protocolVersion : UInt16 := 0x0100

def payload (d : DeviceInfo) : Payload :=
  .ofList (word protocolVersion ++ word d.model ++ word d.category ++ dword d.softwareVersion ++
    word d.footprint ++ word d.personality ++ word d.startAddress.toWord ++ word d.subDevices ++ [d.sensors])

/-- Any version of the protocol is accepted. -/
def ofBytes? : List UInt8 → Except Malformed DeviceInfo
  | [_, _, m1, m0, c1, c0, v3, v2, v1, v0, f1, f0, p1, p0, a1, a0, s1, s0, sensors] => do
    let startAddress ← StartAddress.ofWord? (wordOf a1 a0)
    return {
      model := wordOf m1 m0, category := wordOf c1 c0, softwareVersion := dwordOf v3 v2 v1 v0,
      footprint := wordOf f1 f0, personality := wordOf p1 p0, startAddress,
      subDevices := wordOf s1 s0, sensors }
  | _ => .error .malformed

end DeviceInfo

end LightBus
