import Patchbay.Port

/-!
# Port configs

A port config is a concrete setting of a port. As a request it may leave fields open,
which leaves the choice to the bay.
-/

namespace Patchbay

/-- Gain of a port, one value in millibels per channel. -/
structure Gain where
  index : Int32
  values : List Int32
  rampMs : Int32
  deriving DecidableEq, Repr

/-- A setting of a port. -/
structure Config where
  id : Key
  portId : Key
  sampleRate : Option UInt32
  layout : Option Layout
  format : Option Format
  gain : Option Gain
  flags : Option Flags
  role : Role
  deriving DecidableEq, Repr

instance : Keyed Config := ⟨Config.id⟩

/-- A request that leaves everything open. -/
def Config.blank : Config :=
  { id := 0, portId := 0, sampleRate := none, layout := none, format := none,
    gain := none, flags := none, role := .unspecified }

end Patchbay
