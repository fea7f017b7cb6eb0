/-!
# File systems

What the storage of topologies asks of a file system. Every operation may fail, and says
so in its result.
-/

namespace Patchbay

/-- Monads with a file system of texts, named by their paths. -/
class FileSystem (m : Type → Type) where
  /-- The text of a file, if there is such a file and it holds text. -/
  readText : String → m (Option String)
  /-- Whether a path leads to a file or directory. -/
  isPresent : String → m Bool
  /-- Makes a directory and all directories above it. -/
  makeDirectories : String → m Bool
  /-- Makes a file that holds a text, or gives a file another text. -/
  writeText : String → String → m Bool
  /-- Gives a file another path, over any file that is there. -/
  rename : String → String → m Bool

end Patchbay
