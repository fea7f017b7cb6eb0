import Patchbay.Key

/-!
# Maps and sets of keys

A `KeyMap` holds one value for each of finitely many keys, in ascending order of the
keys, so that two maps with the same content are equal. A `KeySet` is a map without
values.
-/

namespace Patchbay

/-- Finitely many keys in ascending order, each with a value. -/
structure KeyMap (α : Type) where
  /-- The keys with their values. -/
  entries : List (Key × α)
  /-- The keys ascend, so none occurs twice. -/
  ascending : entries.Pairwise (·.1 < ·.1)
  deriving DecidableEq, Repr

namespace KeyMap

variable {α β : Type}

/-- The map without keys. -/
def empty : KeyMap α := ⟨[], .nil⟩

instance : EmptyCollection (KeyMap α) := ⟨empty⟩

instance : Inhabited (KeyMap α) := ⟨empty⟩

/-- The keys in ascending order. -/
def keys (map : KeyMap α) : List Key :=
  map.entries.map (·.1)

/-- The values in ascending order of their keys. -/
def values (map : KeyMap α) : List α :=
  map.entries.map (·.2)

/-- The number of keys. -/
def size (map : KeyMap α) : Nat :=
  map.entries.length

/-- Whether the map has no key. -/
def isEmpty (map : KeyMap α) : Bool :=
  map.entries.isEmpty

/-- The value of `key`, if it has one. -/
def get? (map : KeyMap α) (key : Key) : Option α :=
  (map.entries.find? (·.1 == key)).map (·.2)

/-- Whether `key` has a value. -/
def contains (map : KeyMap α) (key : Key) : Bool :=
  map.entries.any (·.1 == key)

/-- Puts an entry in its place in an ascending list, over an older one of the same key. -/
def place (key : Key) (value : α) : List (Key × α) → List (Key × α)
  | [] => [(key, value)]
  | entry :: rest =>
    if key < entry.1 then (key, value) :: entry :: rest
    else if key = entry.1 then (key, value) :: rest
    else entry :: place key value rest

theorem mem_of_mem_place {key : Key} {value : α} {entries : List (Key × α)} {entry : Key × α}
    (h : entry ∈ place key value entries) : entry = (key, value) ∨ entry ∈ entries := by
  induction entries with
  | nil => simpa [place] using h
  | cons first rest ih =>
    simp only [place] at h
    split at h
    · simpa using h
    · split at h <;> grind

theorem pairwise_place (key : Key) (value : α) {entries : List (Key × α)}
    (h : entries.Pairwise (·.1 < ·.1)) : (place key value entries).Pairwise (·.1 < ·.1) := by
  induction entries with
  | nil => simp [place]
  | cons first rest ih =>
    obtain ⟨above, ascending⟩ := List.pairwise_cons.1 h
    simp only [place]
    split
    · refine List.pairwise_cons.2 ⟨fun entry mem => ?_, h⟩
      rcases List.mem_cons.1 mem with rfl | mem
      · assumption
      · exact Int32.lt_trans ‹_› (above entry mem)
    · split
      · subst_vars
        exact List.pairwise_cons.2 ⟨above, ascending⟩
      · refine List.pairwise_cons.2 ⟨fun entry mem => ?_, ih ascending⟩
        rcases mem_of_mem_place mem with rfl | mem
        · grind
        · exact above entry mem

/-- Gives `key` the value `value`, whatever it had before. -/
def insert (map : KeyMap α) (key : Key) (value : α) : KeyMap α :=
  ⟨place key value map.entries, pairwise_place key value map.ascending⟩

/-- Takes out `key` and its value. -/
def erase (map : KeyMap α) (key : Key) : KeyMap α :=
  ⟨map.entries.filter (·.1 != key), map.ascending.filter _⟩

theorem pairwise_filterMap_values (f : α → Option β) {entries : List (Key × α)}
    (h : entries.Pairwise (·.1 < ·.1)) :
    (entries.filterMap fun entry => (f entry.2).map (entry.1, ·)).Pairwise (·.1 < ·.1) := by
  refine h.filterMap _ fun a b lt a' ha b' hb => ?_
  obtain ⟨_, _, rfl⟩ := Option.map_eq_some_iff.1 ha
  obtain ⟨_, _, rfl⟩ := Option.map_eq_some_iff.1 hb
  exact lt

/-- Replaces every value by its image under `f`, and drops the keys for which there is none. -/
def filterMap (f : α → Option β) (map : KeyMap α) : KeyMap β :=
  ⟨map.entries.filterMap fun entry => (f entry.2).map (entry.1, ·),
    pairwise_filterMap_values f map.ascending⟩

/-- The map of a list of entries; of two entries with one key the later counts. -/
def ofList (entries : List (Key × α)) : KeyMap α :=
  entries.foldl (fun map entry => map.insert entry.1 entry.2) empty

end KeyMap

/-- Finitely many keys. -/
abbrev KeySet := KeyMap Unit

namespace KeySet

/-- The set of the members of a list. -/
def ofList (keys : List Key) : KeySet :=
  KeyMap.ofList (keys.map (·, ()))

/-- The set with `key` as a further member. -/
def add (set : KeySet) (key : Key) : KeySet :=
  KeyMap.insert set key ()

/-- The least member. -/
def min? (set : KeySet) : Option Key :=
  (KeyMap.keys set).head?

end KeySet

end Patchbay
