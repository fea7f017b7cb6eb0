import Patchbay.Key

/-!
# Routes

A route allows patches from a set of source ports to one sink port. When a device is
connected the new port gets the routes of the template it was made from; when it is
disconnected they are taken away again.
-/

namespace Patchbay

/-- Allows patches from any of the source ports to the sink port. -/
structure Route where
  sources : List Key
  sink : Key
  /-- Whether patches over this route tolerate no other patch at the sink. -/
  exclusive : Bool
  deriving DecidableEq, Repr

namespace Route

/-- Whether the route starts at `port`. -/
def hasSource (route : Route) (port : Key) : Bool :=
  route.sources.contains port

/-- Whether the route starts or ends at `port`. -/
def touches (route : Route) (port : Key) : Bool :=
  route.sink == port || route.hasSource port

/-- The route with `port` as a further source, if it starts at `template`. A route that
ends at `template` stays as it is. -/
def withSource (template port : Key) (route : Route) : Route :=
  if route.sink != template && route.hasSource template then
    { route with sources := route.sources ++ [port] }
  else route

/-- Gives `port` the routes of `template`: it becomes a further source of those that
start there, and those that end there get a counterpart that ends at `port`. -/
def extend (template port : Key) (routes : List Route) : List Route :=
  routes.map (withSource template port) ++
    (routes.filter (·.sink == template)).map ({ · with sink := port })

/-- Takes `port` out of all routes: those that end there go, and it is no source of the
others any more. -/
def prune (port : Key) (routes : List Route) : List Route :=
  (routes.filter (·.sink != port)).map fun route =>
    { route with sources := route.sources.filter (· != port) }

end Route

end Patchbay
