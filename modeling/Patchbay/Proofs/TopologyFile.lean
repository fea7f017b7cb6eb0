import Mathlib.Logic.Function.Basic
import Patchbay.Proofs.Wire
import Patchbay.Storage.TopologyFile

/-!
# Saved topologies are loaded again

The storage of topologies is run on files in memory (`Files`), where whatever is asked for is done:
a directory is always made, a text always written, and a file that is there always gets its other
path. Which paths lead to the same place is left open, so that what is shown here holds however
paths are resolved.

Then only validation decides whether a topology is saved, and only the text of a file whether one
is loaded (`Files.save_of_valid`, `Files.save_of_invalid`, `Files.load_eq`).
`Files.saved_topologies_load` puts this together with the faithful texts of topologies.
-/

namespace Patchbay

/-- Files in memory. Paths that `locate` takes to the same place lead to the same file. -/
structure Files {κ : Type} (locate : String → κ) where
  /-- The text of the file at a place, if there is one. -/
  content : κ → Option String

namespace Files

variable {κ : Type} [DecidableEq κ] {locate : String → κ}

/-- The text of the file that a path leads to. -/
def text? (files : Files locate) (path : String) : Option String :=
  files.content (locate path)

/-- The files with another text where a path leads. -/
def write (files : Files locate) (path text : String) : Files locate :=
  ⟨Function.update files.content (locate path) (some text)⟩

/-- The files without the one that a path leads to. -/
def remove (files : Files locate) (path : String) : Files locate :=
  ⟨Function.update files.content (locate path) none⟩

instance : FileSystem (StateM (Files locate)) where
  readText path := fun files => (files.text? path, files)
  isPresent path := fun files => ((files.text? path).isSome, files)
  makeDirectories _ := fun files => (true, files)
  writeText path text := fun files => (true, files.write path text)
  rename source target := fun files =>
    match files.text? source with
    | some text => (true, (files.remove source).write target text)
    | none => (false, files)

/-- Loads a topology from the file that a path leads to. -/
def load (files : Files locate) (path : String) :
    Except StorageFault Topology × Files locate :=
  (TopologyFile.load path : StateM (Files locate) _).run files

/-- Saves a topology in the file that a path leads to. -/
def save (files : Files locate) (path : String) (topology : Topology) :
    Except StorageFault Unit × Files locate :=
  (TopologyFile.save path topology : StateM (Files locate) _).run files

variable {files : Files locate} {path other text : String} {topology : Topology}

theorem text?_write_self : (files.write path text).text? path = some text :=
  Function.update_self _ _ _

theorem text?_write_of_ne (h : locate other ≠ locate path) :
    (files.write path text).text? other = files.text? other :=
  Function.update_of_ne h _ _

theorem text?_remove_self : (files.remove path).text? path = none :=
  Function.update_self _ _ _

theorem text?_remove_of_ne (h : locate other ≠ locate path) :
    (files.remove path).text? other = files.text? other :=
  Function.update_of_ne h _ _

/-- When a file goes, it does not matter what was written to it. -/
theorem remove_write : (files.write path text).remove path = files.remove path :=
  congrArg mk (Function.update_idem _ _ _)

end Files

namespace TopologyFile

open Json

variable {path : String} {topology : Topology}

/-- A text in a file stands for a topology when it is read as that topology, and the topology is
accepted. -/
theorem interpret_eq_ok {text : String} :
    interpret path text = .ok topology ↔
      Value.read text >>= decode? Topology = some topology ∧ topology.validate = .ok () := by
  unfold interpret
  cases Value.read text >>= decode? Topology with
  | none => exact ⟨nofun, nofun⟩
  | some written =>
    cases hvalid : written.validate with
    | error defect =>
      simp only [hvalid]
      refine iff_of_false nofun ?_
      rintro ⟨hread, haccepted⟩
      cases hread
      cases hvalid.symm.trans haccepted
    | ok _ =>
      simp only [hvalid]
      constructor
      · intro h
        cases h
        exact ⟨rfl, hvalid⟩
      · rintro ⟨hread, _⟩
        cases hread
        rfl

/-- The text of a topology that is accepted stands for it. -/
theorem interpret_text (h : topology.validate = .ok ()) :
    interpret path (text topology) = .ok topology := by
  have hread : Value.read (text topology) >>= decode? Topology = some topology :=
    read_write (by decide) Style.blank_indented topology
  exact interpret_eq_ok.2 ⟨hread, h⟩

end TopologyFile

namespace Files

open TopologyFile

variable {κ : Type} [DecidableEq κ] {locate : String → κ} {files : Files locate}
  {path : String} {topology : Topology}

/-- What a file holds is loaded, and no file changes. -/
theorem load_eq : files.load path =
    (match files.text? path with
      | some text => interpret path text
      | none => .error (.unreadable path), files) := by
  unfold load TopologyFile.load
  show StateT.run (match files.text? path with | some _ => _ | none => _) files = _
  cases files.text? path <;> rfl

theorem load_of_text {text : String} (h : files.text? path = some text) :
    files.load path = (interpret path text, files) := by
  rw [load_eq, h]

/-- What is loaded has been accepted. -/
theorem validate_of_load (h : (files.load path).1 = .ok topology) :
    topology.validate = .ok () := by
  rw [load_eq] at h
  cases htext : files.text? path with
  | none =>
    rw [htext] at h
    cases h
  | some text =>
    rw [htext] at h
    exact (interpret_eq_ok.1 h).2

omit [DecidableEq κ] in
/-- An action goes on with the value and the files that its first part leads to. -/
theorem run_bind {α β : Type} {first : StateM (Files locate) α}
    {rest : α → StateM (Files locate) β} {value : α} {next : Files locate}
    (h : first.run files = (value, next)) :
    (first >>= rest).run files = (rest value).run next := by
  show (rest (first.run files).1).run (first.run files).2 = _
  rw [h]

theorem run_writeText {text : String} :
    (FileSystem.writeText path text : StateM (Files locate) Bool).run files =
      (true, files.write path text) :=
  rfl

theorem run_rename {other text : String} (h : files.text? path = some text) :
    (FileSystem.rename path other : StateM (Files locate) Bool).run files =
      (true, (files.remove path).write other text) := by
  show (match files.text? path with
    | some text => (true, (files.remove path).write other text)
    | none => (false, files)) = _
  rw [h]

theorem run_makeParent :
    (makeParent path : StateM (Files locate) Bool).run files = (true, files) := by
  unfold makeParent
  split
  · rfl
  · split <;> rfl

/-- A text goes to its file by way of the temporary one, which is gone afterwards unless it is that
very file. -/
theorem run_replaceText {text : String} :
    (replaceText path text : StateM (Files locate) _).run files =
      (.ok (), (files.remove (temporary path)).write path text) := by
  have hwritten : (files.write (temporary path) text).text? (temporary path) = some text :=
    text?_write_self
  unfold replaceText
  rw [run_bind run_writeText, if_pos rfl, run_bind (run_rename hwritten), remove_write]
  rfl

/-- The text of a topology that is accepted goes to the file. -/
theorem save_of_valid (h : topology.validate = .ok ()) :
    files.save path topology =
      (.ok (), (files.remove (temporary path)).write path (TopologyFile.text topology)) := by
  unfold save TopologyFile.save
  rw [h]
  show ((makeParent path : StateM (Files locate) Bool) >>= _).run files = _
  rw [run_bind run_makeParent]
  exact run_replaceText

theorem save_of_invalid {defect : Defect} (h : topology.validate = .error defect) :
    files.save path topology = (.error (.refused defect), files) := by
  unfold save TopologyFile.save
  rw [h]
  rfl

/-- Only validation decides whether a topology is saved. -/
theorem save_fst_eq_ok_iff :
    (files.save path topology).1 = .ok () ↔ topology.validate = .ok () := by
  cases hvalid : topology.validate with
  | ok _ => simp only [save_of_valid hvalid]
  | error defect => simp [save_of_invalid hvalid]

/-- A topology that was saved is loaded from the files that this left. -/
theorem load_of_save {after : Files locate} (h : files.save path topology = (.ok (), after)) :
    after.load path = (.ok topology, after) := by
  have hvalid : topology.validate = .ok () := save_fst_eq_ok_iff.1 (congrArg Prod.fst h)
  obtain rfl := (congrArg Prod.snd h).symm.trans (congrArg Prod.snd (save_of_valid hvalid))
  rw [load_of_text text?_write_self, interpret_text hvalid]

/-- Saving leaves no temporary file, and changes no file beside it and the saved one. -/
theorem text?_of_save {after : Files locate} (h : files.save path topology = (.ok (), after)) :
    (locate (temporary path) ≠ locate path → after.text? (temporary path) = none) ∧
      ∀ other, locate other ≠ locate path → locate other ≠ locate (temporary path) →
        after.text? other = files.text? other := by
  have hvalid : topology.validate = .ok () := save_fst_eq_ok_iff.1 (congrArg Prod.fst h)
  obtain rfl := (congrArg Prod.snd h).symm.trans (congrArg Prod.snd (save_of_valid hvalid))
  constructor
  · intro hne
    rw [text?_write_of_ne hne, text?_remove_self]
  · intro other hpath htemporary
    rw [text?_write_of_ne hpath, text?_remove_of_ne htemporary]

/-- A topology that is refused changes no file. -/
theorem eq_of_save_eq_error {fault : StorageFault} {after : Files locate}
    (h : files.save path topology = (.error fault, after)) : after = files := by
  cases hvalid : topology.validate with
  | ok _ =>
    rw [save_of_valid hvalid] at h
    cases h
  | error defect =>
    rw [save_of_invalid hvalid] at h
    cases h
    rfl

/-- Exactly the valid topologies are saved. A topology that was saved is loaded as it was, its
temporary file is gone, and all other files are as before; a topology that is refused changes
nothing. Whatever a file holds, only a valid topology is loaded from it, and that topology can be
saved and loaded again. -/
theorem saved_topologies_load (files : Files locate) (path : String) :
    (∀ topology, (files.save path topology).1 = .ok () ↔ topology.validate = .ok ()) ∧
    (∀ topology after, files.save path topology = (.ok (), after) →
      after.load path = (.ok topology, after) ∧
      (locate (temporary path) ≠ locate path → after.text? (temporary path) = none) ∧
      ∀ other, locate other ≠ locate path → locate other ≠ locate (temporary path) →
        after.text? other = files.text? other) ∧
    (∀ topology fault after, files.save path topology = (.error fault, after) → after = files) ∧
    ∀ topology, (files.load path).1 = .ok topology →
      topology.validate = .ok () ∧
      ∃ after, files.save path topology = (.ok (), after) ∧
        after.load path = (.ok topology, after) := by
  refine ⟨fun _ => save_fst_eq_ok_iff, fun _ _ h => ⟨load_of_save h, text?_of_save h⟩,
    fun _ _ _ h => eq_of_save_eq_error h, fun topology hload => ?_⟩
  have hvalid : topology.validate = .ok () := validate_of_load hload
  exact ⟨hvalid, _, save_of_valid hvalid, load_of_save (save_of_valid hvalid)⟩

/-- A drawer with some notes and what an interrupted save has left. -/
def drawer : Files (id : String → String) where
  content := fun path =>
    if path = "vendor/notes.txt" then some "two cards"
    else if path = "vendor/topology.tmp" then some "half a text" else none

/-- The built-in topology goes into the drawer and is found there, without what was left before
and with the notes. -/
theorem drawer_keeps_builtIn :
    ∃ after, drawer.save "vendor/topology.json" .builtIn = (.ok (), after) ∧
      after.load "vendor/topology.json" = (.ok .builtIn, after) ∧
      drawer.text? "vendor/topology.tmp" = some "half a text" ∧
      after.text? "vendor/topology.tmp" = none ∧
      after.text? "vendor/notes.txt" = some "two cards" := by
  have htemporary : temporary "vendor/topology.json" = "vendor/topology.tmp" := rfl
  obtain ⟨hsaves, hsaved, _⟩ := saved_topologies_load drawer "vendor/topology.json"
  have hsave := (hsaves .builtIn).2 rfl
  obtain ⟨hload, hgone, hother⟩ := hsaved .builtIn _ (Prod.ext hsave rfl)
  rw [htemporary] at hgone hother
  exact ⟨_, Prod.ext hsave rfl, hload, rfl, hgone (by decide),
    hother "vendor/notes.txt" (by decide) (by decide)⟩

end Files

end Patchbay
