/-!
# Devices

A device is the hardware behind a device port: what kind of endpoint it is, the
connection it is reached through, and its address there.
-/

namespace Patchbay

/-- The kind of a physical endpoint. -/
inductive DeviceKind
  | inDefault
  | inMicrophone
  | inDevice
  | inHeadset
  | inSubmix
  | outDefault
  | outSpeaker
  | outDevice
  | outHeadset
  | outSubmix
  deriving DecidableEq, Repr

namespace DeviceKind

/-- All kinds, in the order in which they are declared. -/
def all : List DeviceKind :=
  [.inDefault, .inMicrophone, .inDevice, .inHeadset, .inSubmix,
    .outDefault, .outSpeaker, .outDevice, .outHeadset, .outSubmix]

/-- The name a kind goes by in files and messages. -/
def name : DeviceKind → String
  | .inDefault => "InDefault"
  | .inMicrophone => "InMicrophone"
  | .inDevice => "InDevice"
  | .inHeadset => "InHeadset"
  | .inSubmix => "InSubmix"
  | .outDefault => "OutDefault"
  | .outSpeaker => "OutSpeaker"
  | .outDevice => "OutDevice"
  | .outHeadset => "OutHeadset"
  | .outSubmix => "OutSubmix"

end DeviceKind

/-- The address of one of several devices of a kind. -/
inductive Address
  | none
  | id (value : String)
  | mac (bytes : Vector UInt8 6)
  /-- Card and device numbers. -/
  | alsa (numbers : List Int32)
  deriving DecidableEq, Repr

/-- A kind of endpoint and the connection it is reached through. -/
structure DeviceType where
  kind : DeviceKind
  /-- Empty for a device that is permanently attached. -/
  connection : String
  deriving DecidableEq, Repr

/-- The identity of a physical device. -/
structure Device where
  type : DeviceType
  address : Address
  deriving DecidableEq, Repr

/-- Whether the device can be unplugged. -/
def Device.isExternal (device : Device) : Bool :=
  !device.type.connection.isEmpty

end Patchbay
