import Patchbay.Config
import Patchbay.Fault
import Patchbay.KeyMap
import Patchbay.Stream

/-!
# Admission of streams

The streams that are open, by the config they are open on. A config takes one stream, a
mix port as many as its role allows.
-/

namespace Patchbay

/-- An open stream and the port of its config. -/
structure OpenStream where
  port : Key
  stream : Stream
  deriving DecidableEq, Repr

/-- The open streams by their configs. -/
abbrev OpenStreams := KeyMap OpenStream

namespace OpenStreams

/-- The number of open streams on configs of `port`. -/
def countOn (streams : OpenStreams) (port : Key) : Nat :=
  (KeyMap.values streams).countP (·.port == port)

/-- Admits another stream on `config`, a config of `port`, unless the config has one or
the port has as many as it takes. -/
def requireRoom (streams : OpenStreams) (config : Config) (port : Port) : Except Fault Unit := do
  require (!KeyMap.contains streams config.id) (.streamAlreadyOpen config.id)
  match port.role with
  | .mix _ maxOpen _ =>
    require (maxOpen = 0 ∨ streams.countOn port.id < maxOpen.toNat)
      (.streamCapReached port.id maxOpen)
  | _ => .error (.notMixPort config.id)

end OpenStreams

end Patchbay
