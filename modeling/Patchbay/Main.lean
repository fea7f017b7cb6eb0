import Patchbay.Walkthrough

/-!
# Command line

`patchbay [FILE]` walks through a bay that is built from the topology in `FILE`, or from
the built-in one.
-/

namespace Patchbay.Main

/-- Whether an operation of the operating system succeeds. -/
def succeeds (action : IO Unit) : IO Bool := do
  try
    action
    return true
  catch _ =>
    return false

instance : FileSystem IO where
  readText path := do
    try
      return some (← IO.FS.readFile path)
    catch _ =>
      return none
  isPresent path := succeeds (discard (IO.FS.realPath path))
  makeDirectories path := succeeds (IO.FS.createDirAll path)
  writeText path text := succeeds (IO.FS.writeFile path text)
  rename source target := succeeds (IO.FS.rename source target)

/-- The topology that the arguments ask for. -/
def topology : List String → IO (Except StorageFault Topology)
  | [] => return .ok .builtIn
  | path :: _ => TopologyFile.load path

end Patchbay.Main

/-- Prints the report of a walk; a fault ends it with exit code 1. -/
def main (arguments : List String) : IO UInt32 := do
  let walk := Patchbay.Walk.run (← Patchbay.Main.topology arguments)
  IO.print walk.output
  match walk.fault with
  | none => return 0
  | some fault =>
    IO.eprintln fault.report
    return 1
