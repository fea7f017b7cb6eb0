import Patchbay.Device
import Patchbay.Text.Quoted

/-!
# Devices in messages

The text by which messages identify a device: its type and address with all their parts.
-/

namespace Patchbay

/-- The text of an address. -/
def Address.text : Address → String
  | .none => "None"
  | .id value => "Id(" ++ Text.quoted value ++ ")"
  | .mac bytes => "Mac(" ++ Text.listing (bytes.toList.map fun byte => toString byte.toNat) ++ ")"
  | .alsa numbers => "Alsa(" ++ Text.listing (numbers.map fun n => toString n.toInt) ++ ")"

/-- The text of a kind and a connection. -/
def DeviceType.text (type : DeviceType) : String :=
  "DeviceDescription \x7b kind: " ++ type.kind.name ++ ", connection: " ++
    Text.quoted type.connection ++ " \x7d"

/-- The text of a device. -/
def Device.text (device : Device) : String :=
  "AudioDevice \x7b kind: " ++ device.type.text ++ ", address: " ++ device.address.text ++ " \x7d"

end Patchbay
