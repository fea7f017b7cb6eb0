import Patchbay.Config
import Patchbay.Fault

/-!
# Suggested configs

A request for a port config is answered with a suggestion: the requested fields as far as
the port supports them, over a current config or the default of the port. The layout and
the sample rate have to belong to the profile of the format that the suggestion ends up
with, whether it was requested or not.
-/

namespace Patchbay

/-- An answer to a request for a port config. -/
structure Suggestion where
  config : Config
  /-- Whether the port supports every field that was requested. -/
  valid : Bool
  /-- Whether flags, format, layout and sample rate were all requested. -/
  complete : Bool
  deriving DecidableEq, Repr

/-- Whether the suggestion may be stored. A partial request can update a config that
exists, but not make a new one. -/
def Suggestion.applies (suggestion : Suggestion) (update : Bool) : Bool :=
  suggestion.valid && (update || suggestion.complete)

/-- A requested value if it is supported, and `fallback` otherwise. -/
def settled {α : Type} (requested : Option α) (supported : α → Bool) (fallback : Option α) :
    Option α :=
  (requested.filter supported).or fallback

namespace Port

/-- The config with the first choice of the first profile in every field. -/
def defaultConfig (port : Port) : Except Fault Config := do
  let profile ← present port.profiles.head? (.noProfiles port.id)
  let layout ← present profile.layouts.head? (.noLayouts port.id)
  let sampleRate ← present profile.sampleRates.head? (.noSampleRates port.id)
  return { id := 0, portId := port.id, sampleRate := some sampleRate, layout := some layout,
           format := some profile.format, gain := none, flags := some port.flags,
           role := port.role }

/-- Whether the port has a profile for `format`. -/
def supports (port : Port) (format : Format) : Bool :=
  (port.profile? format).isSome

/-- Answers a request for a config of the port, over the config `current` if there is
one. Gain is taken as requested. -/
def suggest (port : Port) (request : Config) (current : Option Config) :
    Except Fault Suggestion := do
  let base ← match current with
    | some config => .ok config
    | none => port.defaultConfig
  let format := settled request.format port.supports base.format
  let profile ← present (format.bind port.profile?) (.formatUnsupported port.id format)
  let hasLayout (layout : Layout) : Bool := profile.layouts.contains layout
  let hasRate (rate : UInt32) : Bool := profile.sampleRates.contains rate
  return {
    config := { base with
      format
      layout := settled request.layout hasLayout base.layout
      sampleRate := settled request.sampleRate hasRate base.sampleRate
      gain := request.gain.or base.gain }
    valid := request.flags.all (· = port.flags) && request.format.all port.supports &&
      request.layout.all hasLayout && request.sampleRate.all hasRate
    complete := request.flags.isSome && request.format.isSome && request.layout.isSome &&
      request.sampleRate.isSome }

end Port

end Patchbay
