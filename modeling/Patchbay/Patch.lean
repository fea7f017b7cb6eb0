import Patchbay.Table

/-!
# Patches

A patch connects the port configs of its sources with those of its sinks.
-/

namespace Patchbay

/-- A connection of port configs. -/
structure Patch where
  id : Key
  /-- The source configs. -/
  sources : List Key
  /-- The sink configs. -/
  sinks : List Key
  minBufferFrames : Int32
  /-- One latency per sink. -/
  latenciesMs : List Int32
  deriving DecidableEq, Repr

instance : Keyed Patch := ⟨Patch.id⟩

namespace Patch

/-- All configs that a patch connects. -/
def configs (patch : Patch) : List Key :=
  patch.sources ++ patch.sinks

/-- A request to connect `sources` with `sinks` by a new patch. -/
def request (sources sinks : List Key) : Patch :=
  { id := 0, sources, sinks, minBufferFrames := 0, latenciesMs := [] }

end Patch

end Patchbay
