import Patchbay.Bay.Request
import Patchbay.Storage.TopologyFile

/-!
# A walk through a bay

A demonstration that builds a bay, connects a simulated USB output, plays to it over a
patch, and takes everything down again, while it reports what it does.
-/

namespace Patchbay

/-- Why a walk ends early. -/
inductive WalkFault
  | storage (fault : StorageFault)
  | start (fault : StartFault)
  | request (fault : Fault)
  deriving DecidableEq, Repr

namespace WalkFault

/-- The causes of a fault, outermost first. -/
def causes : WalkFault → List String
  | .storage fault => [fault.message, fault.cause.text]
  | .start fault => fault.causes
  | .request fault => [fault.message]

/-- The report of a fault: its message, and on lines of their own what lies behind it. -/
def report (fault : WalkFault) : String :=
  match fault.causes with
  | [] => "Error"
  | [message] => "Error: " ++ message
  | message :: inner =>
    "Error: " ++ message ++ "\n\nCaused by:" ++ String.join (inner.map ("\n    " ++ ·))

end WalkFault

/-- What a walk has reported, and the fault that ended it early. -/
structure Walk where
  output : String
  fault : Option WalkFault
  deriving DecidableEq, Repr

/-- A bay and what has been reported about it. -/
structure Tour where
  bay : Bay
  output : String

namespace Tour

/-- A part of a tour. -/
abbrev Part := ExceptT Fault (StateM Tour)

/-- Reports a line. -/
def say (line : String) : Part Unit :=
  modify fun tour => { tour with output := tour.output ++ line ++ "\n" }

/-- Acts on the bay. -/
def act {α : Type} (action : Act α) : Part α := do
  let tour ← get
  let (result, bay) := action.run tour.bay
  set { tour with bay }
  result

/-- The flags of a port in a report. -/
def flagsText (flags : Flags) : String :=
  flags.direction.name ++ "(" ++ toString flags.bits.toNat ++ ")"

/-- Reports a port. -/
def sayPort (port : Port) : Part Unit :=
  say s!"  [{port.id.text}] {port.name} ({flagsText port.flags})"

/-- Requests 16-bit stereo at 48 kHz for a port. -/
def requestConfig (port : Key) : Part Config := do
  let tour ← get
  let entry ← tour.bay.graph.port port
  let (config, _) ← act <| Bay.setConfig { Config.blank with
    portId := port, format := some (.pcm .int16), layout := some .stereo,
    sampleRate := some 48000, flags := some entry.flags }
  return config

/-- The tour of a new bay. -/
def whole : Part Unit := do
  say "Ports:"
  let tour ← get
  tour.bay.graph.ports.forM sayPort
  act (Bay.setDebug .simulated)
  let template ← tour.bay.graph.port Topology.BuiltIn.usbOutput
  let usb ← act (Bay.connect template)
  say s!"\nConnected USB output as port {usb.id.text}"
  let mix ← requestConfig Topology.BuiltIn.primaryOutput
  let device ← requestConfig usb.id
  say s!"Port configs: mix {mix.id.text}, device {device.id.text}"
  let patch ← act (Bay.setPatch (.request [mix.id] [device.id]))
  let latencies := Text.listing (patch.latenciesMs.map fun ms => toString ms.toInt)
  say <| s!"Patch {patch.id.text}: minimum buffer {patch.minBufferFrames.toInt} frames, " ++
    s!"latencies {latencies} ms"
  let (buffer, _) ← act (Bay.openOutput mix.id 960 ⟨[]⟩ none)
  say <| s!"Output stream open: {buffer.frames.toInt} frames of " ++
    s!"{buffer.frameBytes.toNat} bytes"
  act (Bay.closeStream mix.id)
  act (Bay.resetPatch patch.id)
  act (Bay.resetConfig device.id)
  act (Bay.resetConfig mix.id)
  act (Bay.disconnect usb.id)
  let tour ← get
  say s!"\nTorn down; {tour.bay.graph.ports.length} ports remain"

end Tour

namespace Walk

/-- The headline of a report. -/
def headline : String :=
  "Audio HAL module demo\n=====================\n\n"

/-- The walk through the bay of a topology that has been loaded, or failed to be. -/
def run (loaded : Except StorageFault Topology) : Walk :=
  match loaded with
  | .error fault => { output := headline, fault := some (.storage fault) }
  | .ok topology =>
    match Bay.ofTopology? topology .unavailable with
    | .error fault => { output := headline, fault := some (.start fault) }
    | .ok bay =>
      match Tour.whole.run { bay, output := headline } with
      | (.ok (), tour) => { output := tour.output, fault := none }
      | (.error fault, tour) => { output := tour.output, fault := some (.request fault) }

end Walk

end Patchbay
