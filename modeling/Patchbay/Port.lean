import Patchbay.Device
import Patchbay.Format
import Patchbay.Table

/-!
# Ports

A port is an endpoint of audio data. Streams are opened on mix ports, device ports stand
for hardware. A device port without profiles is a template: ports for external devices
are made from it when they are connected.
-/

namespace Patchbay

/-- Where audio data of a port goes. -/
inductive Direction
  | input
  | output
  deriving DecidableEq, Repr

/-- A property of output ports, one bit of their flags. -/
inductive OutputFlag
  | direct
  | primary
  | fast
  | deepBuffer
  | compressOffload
  | nonBlocking
  | hwAvSync
  deriving DecidableEq, Repr

namespace OutputFlag

/-- All flags, from the lowest bit up. -/
def all : List OutputFlag :=
  [.direct, .primary, .fast, .deepBuffer, .compressOffload, .nonBlocking, .hwAvSync]

/-- The name a flag goes by in files. -/
def name : OutputFlag → String
  | .direct => "Direct"
  | .primary => "Primary"
  | .fast => "Fast"
  | .deepBuffer => "DeepBuffer"
  | .compressOffload => "CompressOffload"
  | .nonBlocking => "NonBlocking"
  | .hwAvSync => "HwAvSync"

/-- The bit that stands for a flag. -/
def bit : OutputFlag → UInt32
  | .direct => 1
  | .primary => 2
  | .fast => 4
  | .deepBuffer => 8
  | .compressOffload => 16
  | .nonBlocking => 32
  | .hwAvSync => 64

end OutputFlag

/-- The direction of a port and further bits, whose meaning depends on the direction. -/
structure Flags where
  direction : Direction
  bits : UInt32
  deriving DecidableEq, Repr

/-- Whether these are output flags with the bit of `flag` set. -/
def Flags.has (flags : Flags) (flag : OutputFlag) : Bool :=
  flags.direction = .output && flags.bits &&& flag.bit != 0

/-- What a port is for, with the data that only such ports have. -/
inductive Role
  | unspecified
  | device (device : Device) (flags : UInt32)
  /-- At most `maxOpen` streams may be open at a time, any number if that is zero. -/
  | mix (handle : Int32) (maxOpen : UInt32) (maxActive : UInt32)
  deriving DecidableEq, Repr

namespace Role

/-- The device of a device port. -/
def device? : Role → Option Device
  | .device hardware _ => some hardware
  | _ => none

/-- Whether the role is that of a device port. -/
def isDevice (role : Role) : Bool :=
  role.device?.isSome

/-- The role of a device port with another address for its device. -/
def withAddress (address : Address) : Role → Role
  | .device hardware flags => .device { hardware with address } flags
  | role => role

end Role

/-- A format with the layouts and sample rates that a port supports for it. -/
structure Profile where
  name : String
  format : Format
  layouts : List Layout
  sampleRates : List UInt32
  deriving DecidableEq, Repr

/-- A raw descriptor that an external device reports. -/
structure ExtraDescriptor where
  standard : String
  bytes : List UInt8
  deriving DecidableEq, Repr

/-- An audio endpoint. -/
structure Port where
  id : Key
  name : String
  /-- Empty for a template. -/
  profiles : List Profile
  flags : Flags
  role : Role
  extraDescriptors : List ExtraDescriptor
  deriving DecidableEq, Repr

instance : Keyed Port := ⟨Port.id⟩

/-- The first profile of a port for `format`. -/
def Port.profile? (port : Port) (format : Format) : Option Profile :=
  port.profiles.find? (·.format = format)

end Patchbay
