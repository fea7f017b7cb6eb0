import Patchbay.Json.Decode
import Patchbay.Json.Encode
import Patchbay.Json.Reader
import Patchbay.Json.Writer
import Patchbay.Storage.FileSystem
import Patchbay.Storage.Path
import Patchbay.Text.Quoted
import Patchbay.Topology.BuiltIn
import Patchbay.Topology.Validation
import Patchbay.Wire.Topology

/-!
# Topology files

Topologies are kept in files as indented JSON. Only well-formed topologies are written
and read. A file is replaced in one step: the new text goes to a temporary file beside
it, which then takes its path.
-/

namespace Patchbay

/-- What lies behind a failure of storage. -/
inductive StorageCause
  | inputOutput
  | json
  | illFormed (defect : Defect)
  deriving DecidableEq, Repr

/-- Why a topology cannot be loaded or saved. -/
inductive StorageFault
  | unreadable (path : String)
  | malformed
  | illFormed (path : String) (defect : Defect)
  | refused (defect : Defect)
  | directoryNotMade
  | unwritable (path : String)
  | notReplaced
  deriving DecidableEq, Repr

/-- The text of a cause. -/
def StorageCause.text : StorageCause → String
  | .inputOutput => "input or output failed"
  | .json => "the text is not the JSON of a topology"
  | .illFormed defect => defect.message

namespace StorageFault

/-- What was being done. -/
def message : StorageFault → String
  | .unreadable path => "Failed to read topology from " ++ Text.quoted path
  | .malformed => "Failed to parse topology JSON"
  | .illFormed path _ => "Invalid topology in " ++ Text.quoted path
  | .refused _ => "Refusing to save invalid topology"
  | .directoryNotMade => "Failed to create topology directory"
  | .unwritable path => "Failed to write topology to " ++ Text.quoted path
  | .notReplaced => "Failed to atomically update topology file"

/-- What went wrong. -/
def cause : StorageFault → StorageCause
  | .unreadable _ => .inputOutput
  | .malformed => .json
  | .illFormed _ defect => .illFormed defect
  | .refused defect => .illFormed defect
  | .directoryNotMade => .inputOutput
  | .unwritable _ => .inputOutput
  | .notReplaced => .inputOutput

end StorageFault

namespace TopologyFile

open Json

variable {m : Type → Type} [Monad m] [FileSystem m]

/-- The topology that the text of a file stands for. -/
def interpret (path text : String) : Except StorageFault Topology :=
  match Value.read text >>= decode? Topology with
  | none => .error .malformed
  | some topology =>
    match topology.validate with
    | .ok () => .ok topology
    | .error defect => .error (.illFormed path defect)

/-- The text of a topology in a file. -/
def text (topology : Topology) : String :=
  (encode topology).indented

/-- Where the new text of a file goes first. -/
def temporary (path : String) : String :=
  Path.withExtension path "tmp"

/-- Reads a topology from a file. -/
def load (path : String) : m (Except StorageFault Topology) := do
  match ← FileSystem.readText path with
  | some text => return interpret path text
  | none => return .error (.unreadable path)

/-- Reads a topology from a file, or takes the built-in one if there is no such file. -/
def loadOrBuiltIn (path : String) : m (Except StorageFault Topology) := do
  if ← FileSystem.isPresent path then load path else return .ok .builtIn

/-- Makes the directory that a file is to be in. -/
def makeParent (path : String) : m Bool :=
  match Path.parent? path with
  | none => return true
  | some parent =>
    if parent.isEmpty then return true else FileSystem.makeDirectories parent

/-- Writes a text to a file in one step, by way of the temporary file. -/
def replaceText (path text : String) : m (Except StorageFault Unit) := do
  if ← FileSystem.writeText (temporary path) text then
    if ← FileSystem.rename (temporary path) path then
      return .ok ()
    else
      return .error .notReplaced
  else
    return .error (.unwritable (temporary path))

/-- Writes a topology to a file. -/
def save (path : String) (topology : Topology) : m (Except StorageFault Unit) := do
  match topology.validate with
  | .error defect => return .error (.refused defect)
  | .ok () =>
    if ← makeParent path then
      replaceText path (text topology)
    else
      return .error .directoryNotMade

end TopologyFile

end Patchbay
