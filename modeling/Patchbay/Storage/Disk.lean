import Patchbay.Storage.FileSystem
import Patchbay.Storage.Path

/-!
# A disk in memory

A disk holds directories and files with bytes. Paths are relative to its root, so that
everything on it can be listed.
-/

namespace Patchbay

/-- What a path can lead to. -/
inductive Node
  | directory
  | file (bytes : List UInt8)
  deriving DecidableEq, Repr

/-- Where a node is: the names on the way to it from the root. -/
abbrev Location := List (List Char)

/-- Why a path does not lead to a place on a disk. -/
inductive Obstacle
  /-- A directory on the way is missing. -/
  | missing
  /-- Something else is in the way, or no disk can hold such a path. -/
  | blocked
  deriving DecidableEq, Repr

/-- The files and directories below the root. -/
structure Disk where
  nodes : List (Location × Node)
  deriving DecidableEq, Repr

namespace Disk

/-- A disk without files. -/
def empty : Disk := ⟨[]⟩

/-- The node at a location. The root is a directory. -/
def node? (disk : Disk) (location : Location) : Option Node :=
  if location = [] then some .directory
  else (disk.nodes.find? (·.1 == location)).map (·.2)

/-- Puts a node at a location, in the place of any other. -/
def put (disk : Disk) (location : Location) (node : Node) : Disk :=
  ⟨disk.nodes.filter (·.1 != location) ++ [(location, node)]⟩

/-- Takes the node at a location away. -/
def remove (disk : Disk) (location : Location) : Disk :=
  ⟨disk.nodes.filter (·.1 != location)⟩

/-- The greatest size in bytes of a name on a disk. -/
def nameLimit : Nat := 255

/-- The greatest size in bytes of a path. -/
def pathLimit : Nat := 4095

/-- One step along a path. Two dots lead up, but not beyond the root. -/
def follow (location : Location) (segment : List Char) : Except Obstacle Location :=
  if segment = [] ∨ segment = ['.'] then .ok location
  else if segment = ['.', '.'] then
    if location = [] then .error .blocked else .ok location.dropLast
  else if nameLimit < (String.ofList segment).utf8ByteSize then .error .blocked
  else .ok (location ++ [segment])

/-- The location that segments lead to from a directory, where every segment but the last
has to lead to a directory too. -/
def walk (disk : Disk) (location : Location) : List (List Char) → Except Obstacle Location
  | [] => .ok location
  | segment :: rest =>
    match disk.node? location with
    | some .directory => do walk disk (← follow location segment) rest
    | some (.file _) => .error .blocked
    | none => .error .missing

/-- The segments of a path that can lead anywhere. -/
def checkedSegments (path : String) : Except Obstacle (List (List Char)) :=
  if path.isEmpty then .error .missing
  else if path.contains '\x00' ∨ pathLimit < path.utf8ByteSize then .error .blocked
  else .ok (Path.segments path.toList)

/-- The location that a path leads to. Whether something is there is left open. -/
def locate (disk : Disk) (path : String) : Except Obstacle Location := do
  walk disk [] (← checkedSegments path)

/-- The node that a path leads to. -/
def find? (disk : Disk) (path : String) : Option Node :=
  match disk.locate path with
  | .ok location => disk.node? location
  | .error _ => none

/-- The bytes of the file that a path leads to. -/
def read? (disk : Disk) (path : String) : Option (List UInt8) :=
  match disk.find? path with
  | some (.file bytes) => some bytes
  | _ => none

/-- The disk with a file of given bytes at a location, unless a directory is there. -/
def place? (disk : Disk) (location : Location) (bytes : List UInt8) : Option Disk :=
  if disk.node? location = some .directory then none
  else some (disk.put location (.file bytes))

/-- The disk with a file of other bytes where a path leads. -/
def write? (disk : Disk) (path : String) (bytes : List UInt8) : Option Disk :=
  match disk.locate path with
  | .ok location => disk.place? location bytes
  | .error _ => none

/-- The bytes of a text. -/
def encodeText (text : String) : List UInt8 :=
  text.toUTF8.data.toList

/-- The text that bytes stand for, if they stand for one. -/
def decodeText? (bytes : List UInt8) : Option String :=
  String.fromUTF8? ⟨bytes.toArray⟩

/-- The disk with a directory where a path leads, when all that is above is there. -/
def makeDirectory (disk : Disk) (path : String) : Except Obstacle Disk := do
  let segments ← checkedSegments path
  let location ← walk disk [] (segments.reverse.dropWhile List.isEmpty).reverse
  match disk.node? location with
  | some .directory => .ok disk
  | some (.file _) => .error .blocked
  | none => .ok (disk.put location .directory)

/-- The disk with directories at the given paths, innermost first, and whether all could
be made. A directory is made after those above it, which stay when it cannot be made. -/
def makeLineage (disk : Disk) : List String → Bool × Disk
  | [] => (true, disk)
  | path :: above =>
    match disk.makeDirectory path with
    | .ok disk => (true, disk)
    | .error .blocked => (false, disk)
    | .error .missing =>
      let (made, disk) := makeLineage disk above
      if made then
        match disk.makeDirectory path with
        | .ok disk => (true, disk)
        | .error _ => (false, disk)
      else (false, disk)

/-- The disk with a directory and all directories above it, and whether all could be made.
The empty path asks for nothing. -/
def makeDirectories (disk : Disk) (path : String) : Bool × Disk :=
  if path.isEmpty then (true, disk) else disk.makeLineage (Path.lineage path)

/-- The disk with a file under another path. -/
def rename? (disk : Disk) (source target : String) : Option Disk :=
  match disk.locate source, disk.locate target, disk.read? source with
  | .ok location, .ok destination, some bytes =>
    (disk.remove location).place? destination bytes
  | _, _, _ => none

/-- The text of the location of a node; that of a directory ends with a slash. -/
def listed (entry : Location × Node) : String :=
  String.ofList (Path.ofSegments entry.1) ++
    match entry.2 with
    | .directory => "/"
    | .file _ => ""

/-- The files and directories in ascending order of their texts. -/
def listing (disk : Disk) : List String :=
  (disk.nodes.map listed).mergeSort fun a b => decide (a ≤ b)

/-- Makes a change, and says whether it succeeded. -/
def attempt (change : Disk → Option Disk) : StateM Disk Bool := fun disk =>
  match change disk with
  | some disk => (true, disk)
  | none => (false, disk)

instance : FileSystem (StateM Disk) where
  readText path := fun disk => (disk.read? path >>= decodeText?, disk)
  isPresent path := fun disk => ((disk.find? path).isSome, disk)
  makeDirectories path := fun disk => disk.makeDirectories path
  writeText path text := attempt (·.write? path (encodeText text))
  rename source target := attempt (·.rename? source target)

end Disk

end Patchbay
