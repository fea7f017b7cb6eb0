import Patchbay.Action
import Patchbay.Limits
import Patchbay.Route
import Patchbay.Usage

/-!
# The ledger of patches

The ledger holds the active patches together with the record of what they use. It admits
a patch when its lists are in order, every sink is reached by a route from one of its
sources, and no sink that it reaches by exclusive routes only is in use by another patch.
Patches are created and replaced in place; what a replacement has taken out of the record
by the time it is refused is put back.
-/

namespace Patchbay

namespace Route

/-- The routes that start at one of `ports`. -/
def fromPorts (ports : List Key) (routes : List Route) : List Route :=
  routes.filter fun route => ports.any route.hasSource

/-- The sinks of routes, in ascending order. -/
def sinks (routes : List Route) : List Key :=
  KeyMap.keys (KeySet.ofList (routes.map (·.sink)))

/-- Whether all of `routes` that end at `sink` are exclusive. -/
def exclusiveAt (sink : Key) (routes : List Route) : Bool :=
  (routes.filter (·.sink == sink)).all (·.exclusive)

end Route

namespace Patch

/-- The patch with the fields that follow from the limits: the least buffer, and the same
latency for every sink. -/
def completed (limits : Limits) (patch : Patch) : Patch :=
  { patch with
    minBufferFrames := limits.minBufferFrames
    latenciesMs := patch.sinks.map fun _ => limits.latencyMs }

/-- The routes that start at the sources of a requested patch, provided that its lists
are not empty, repeat nothing and name existing configs, and that a route ends at the
port of each sink. -/
def usableRoutes (request : Patch) (configs : List Config) (routes : List Route) :
    Except Fault (List Route) := do
  require (request.sources ≠ []) .sourcesEmpty
  require request.sources.Nodup (.sourcesRepeated request.sources)
  require (request.sinks ≠ []) .sinksEmpty
  require request.sinks.Nodup (.sinksRepeated request.sinks)
  let missingSources := Table.missing configs request.sources
  require (missingSources = []) (.sourcesNotFound missingSources)
  let missingSinks := Table.missing configs request.sinks
  require (missingSinks = []) (.sinksNotFound missingSinks)
  let usable := Route.fromPorts ((Table.select configs request.sources).map (·.portId)) routes
  let sinkPorts := (Table.select configs request.sinks).map (·.portId)
  match sinkPorts.find? fun port => !usable.any (·.sink == port) with
  | some port => .error (.noRoute port)
  | none => .ok usable

end Patch

/-- The active patches, in the order in which they were admitted. -/
structure Ledger where
  patches : List Patch
  usage : Usage
  /-- The greatest key that a patch has had. -/
  lastKey : Key
  deriving DecidableEq, Repr

namespace Ledger

/-- No patches. -/
def empty : Ledger :=
  { patches := [], usage := .empty, lastKey := 0 }

/-- Refuses routes when a sink that they reach exclusively is in use. -/
def requireFree (usage : Usage) (usable : List Route) : Except Fault Unit :=
  match (Route.sinks usable).find? fun sink =>
    Route.exclusiveAt sink usable && usage.isUsed sink with
  | some sink => .error (.sinkExclusive sink)
  | none => .ok ()

/-- Takes the next key. -/
def takeKey : Action Ledger Key := do
  let ledger ← get
  let key ← present ledger.lastKey.next? (.noPatchKeysLeft ledger.lastKey)
  set { ledger with lastKey := key }
  return key

/-- Adds a patch under a fresh key, provided that its routes are free. -/
def create (usable : List Route) (patch : Patch) : Action Ledger Patch := do
  requireFree (← get).usage usable
  let patch := { patch with id := ← takeKey }
  modify fun ledger => { ledger with patches := ledger.patches ++ [patch] }
  return patch

/-- Puts a patch in the place of the one with its key, provided that its routes are free.
The use of the old patch is taken out of the record first, so that it does not bar the new
one, and the record is put back when the new one is refused. -/
def replace (usable : List Route) (patch : Patch) : Action Ledger Patch := do
  require (Table.holds (← get).patches patch.id) (.noSuchPatch patch.id)
  let snapshot := (← get).usage
  modify fun ledger => { ledger with usage := ledger.usage.release patch.id }
  try
    requireFree (← get).usage usable
  catch fault =>
    modify fun ledger => { ledger with usage := snapshot }
    throw fault
  modify fun ledger => { ledger with patches := Table.replace patch ledger.patches }
  return patch

/-- Creates a patch when the key of the request is zero, and otherwise puts the request
in the place of the patch with its key. -/
def set (request : Patch) (configs : List Config) (routes : List Route) (limits : Limits) :
    Action Ledger Patch := do
  let usable ← request.usableRoutes configs routes
  let completed := request.completed limits
  let patch ← if request.id = 0 then create usable completed else replace usable completed
  modify fun ledger => { ledger with usage := ledger.usage.register patch configs }
  return patch

/-- Admits a patch that has its key already. -/
def restore (ledger : Ledger) (patch : Patch) (configs : List Config) (routes : List Route)
    (limits : Limits) : Except Fault (Patch × Ledger) := do
  require (0 < patch.id) (.patchKeyNotPositive patch.id)
  require (!Table.holds ledger.patches patch.id) (.patchKeyInUse patch.id)
  let usable ← patch.usableRoutes configs routes
  requireFree ledger.usage usable
  let patch := patch.completed limits
  return (patch,
    { patches := ledger.patches ++ [patch]
      usage := ledger.usage.register patch configs
      lastKey := max ledger.lastKey patch.id })

/-- Removes the patch with the key `patch`. -/
def reset (ledger : Ledger) (patch : Key) : Except Fault Ledger := do
  require (Table.holds ledger.patches patch) (.patchNotFound patch)
  return { ledger with
    patches := Table.remove ledger.patches patch
    usage := ledger.usage.release patch }

/-- The patch with the key `patch`. -/
def get? (ledger : Ledger) (patch : Key) : Option Patch :=
  Table.find? ledger.patches patch

/-- The patch with the least key among those that use the config or port `key`. -/
def using? (ledger : Ledger) (key : Key) : Option Key :=
  ledger.usage.first? key

end Ledger

end Patchbay
