/-!
# Keys

Ports and port configs are named by keys from one shared space, patches by keys from
a space of their own. A fresh key is the one after the greatest ever used, so keys are
never used again; a space whose greatest key has been used is exhausted.
-/

namespace Patchbay

/-- Names a port, a port config or a patch. A stored entry has a positive key; zero in
a request asks for a new entry. -/
abbrev Key := Int32

namespace Key

/-- The key after `last`, unless `last` is the greatest of all. -/
def next? (last : Key) : Option Key :=
  if last = Int32.maxValue then none else some (last + 1)

/-- The greatest of `keys`, or zero when there are none. -/
def last (keys : List Key) : Key :=
  keys.max?.getD 0

/-- The decimal text of a key. -/
def text (key : Key) : String :=
  toString key.toInt

end Key

end Patchbay
