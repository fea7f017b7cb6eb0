import Patchbay.Key

/-!
# Tables

Ports, port configs and patches are kept in plain lists, in the order in which they
were added. Look-ups take the first entry with a key; in a well-formed bay it is the
only one.
-/

namespace Patchbay

/-- Entries that carry the key they are looked up by. -/
class Keyed (α : Type) where
  /-- The key of an entry. -/
  key : α → Key

namespace Table

variable {α : Type} [Keyed α]

/-- The first entry with `key`. -/
def find? (table : List α) (key : Key) : Option α :=
  table.find? (Keyed.key · == key)

/-- The position of the first entry with `key`. -/
def position? (table : List α) (key : Key) : Option Nat :=
  table.findIdx? (Keyed.key · == key)

/-- Whether some entry has `key`. -/
def holds (table : List α) (key : Key) : Bool :=
  table.any (Keyed.key · == key)

/-- The entries named by `keys`, in the order of `keys`. -/
def select (table : List α) (keys : List Key) : List α :=
  keys.filterMap (find? table)

/-- The members of `keys` that name no entry. -/
def missing (table : List α) (keys : List Key) : List Key :=
  keys.filter fun key => !holds table key

/-- Puts `entry` in the place of the first entry with its key. -/
def replace (entry : α) : List α → List α
  | [] => []
  | old :: rest =>
    if Keyed.key old = Keyed.key entry then entry :: rest else old :: replace entry rest

/-- Takes out the first entry with `key`. -/
def remove (table : List α) (key : Key) : List α :=
  table.eraseP (Keyed.key · == key)

end Table

end Patchbay
