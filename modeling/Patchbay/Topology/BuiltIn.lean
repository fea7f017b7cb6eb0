import Patchbay.Topology

/-!
# The built-in topology

A topology for use without hardware: an attached speaker and microphone, mix ports for
primary output, compressed output and primary input, and templates for USB devices in
both directions.
-/

namespace Patchbay.Topology.BuiltIn

/-- The attached speaker. -/
def speaker : Key := 1

/-- The attached microphone. -/
def microphone : Key := 2

/-- The mix port for all ordinary output. -/
def primaryOutput : Key := 3

/-- The mix port for compressed output. -/
def compressedOffload : Key := 4

/-- The mix port for all input. -/
def primaryInput : Key := 5

/-- The template of USB outputs. -/
def usbOutput : Key := 6

/-- The template of USB inputs. -/
def usbInput : Key := 7

/-- A profile for linear audio, without a name. -/
def pcmProfile (sample : Sample) (layouts : List Layout) (sampleRates : List UInt32) : Profile :=
  { name := "", format := .pcm sample, layouts, sampleRates }

/-- A device port whose device has no address. -/
def devicePort (id : Key) (name : String) (direction : Direction) (kind : DeviceKind)
    (connection : String) (deviceFlags : UInt32) (profiles : List Profile) : Port :=
  { id, name, profiles, flags := { direction, bits := 0 },
    role := .device { type := { kind, connection }, address := .none } deviceFlags,
    extraDescriptors := [] }

/-- A mix port with a cap on its open streams; its handle is its key. -/
def mixPort (id : Key) (name : String) (flags : Flags) (maxOpen : UInt32)
    (profiles : List Profile) : Port :=
  { id, name, profiles, flags, role := .mix id maxOpen maxOpen, extraDescriptors := [] }

/-- Sample rates for playing. -/
def playbackRates : List UInt32 := [44100, 48000]

/-- Sample rates for recording. -/
def recordingRates : List UInt32 := [8000, 11025, 16000, 32000, 44100, 48000]

/-- The ports. -/
def ports : List Port :=
  [ devicePort speaker "Speaker" .output .outSpeaker "" 1
      [pcmProfile .int16 [.stereo] playbackRates],
    devicePort microphone "Built-In Mic" .input .inMicrophone "" 0
      [pcmProfile .int16 [.mono, .stereo] recordingRates],
    mixPort primaryOutput "primary output" ⟨.output, OutputFlag.primary.bit⟩ 1
      [pcmProfile .int16 [.stereo] playbackRates],
    mixPort compressedOffload "compressed offload"
      ⟨.output, OutputFlag.direct.bit ||| OutputFlag.compressOffload.bit |||
        OutputFlag.nonBlocking.bit⟩ 1
      [{ name := "", format := .encoded "audio/mpeg", layouts := [.stereo],
         sampleRates := playbackRates }],
    mixPort primaryInput "primary input" ⟨.input, 0⟩ 2
      [pcmProfile .int16 [.mono, .stereo] recordingRates],
    devicePort usbOutput "USB Out" .output .outDevice "usb" 0 [],
    devicePort usbInput "USB In" .input .inDevice "usb" 0 [] ]

/-- The config of an attached device: it shares the key of its port and has the first
choice of the first profile. -/
def attachedConfig? (port : Port) : Option Config := do
  if !port.role.isDevice then
    none
  let profile ← port.profiles.head?
  some { id := port.id, portId := port.id, sampleRate := profile.sampleRates.head?,
         layout := profile.layouts.head?, format := some profile.format, gain := none,
         flags := some port.flags, role := port.role }

/-- The routes. -/
def routes : List Route :=
  [ { sources := [primaryOutput], sink := speaker, exclusive := false },
    { sources := [compressedOffload], sink := speaker, exclusive := true },
    { sources := [primaryOutput], sink := usbOutput, exclusive := false },
    { sources := [microphone, usbInput], sink := primaryInput, exclusive := false } ]

/-- The profiles of simulated USB devices. -/
def usbProfiles : List Profile :=
  [pcmProfile .int16 [.mono, .stereo] playbackRates, pcmProfile .int24 [.stereo] [48000]]

end BuiltIn

/-- The built-in topology. -/
def builtIn : Topology :=
  { version := "1.0"
    ports := BuiltIn.ports
    configs := BuiltIn.ports.filterMap BuiltIn.attachedConfig?
    routes := BuiltIn.routes
    patches := []
    connectedProfiles :=
      KeyMap.ofList [(BuiltIn.usbOutput, BuiltIn.usbProfiles), (BuiltIn.usbInput, BuiltIn.usbProfiles)]
    limits := .standard }

end Patchbay.Topology
