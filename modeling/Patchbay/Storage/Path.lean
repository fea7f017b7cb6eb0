/-!
# Paths

Paths as texts, with segments between slashes. A segment that is empty or a lone dot adds
nothing to a path, except that a relative path may start with a dot.
-/

namespace Patchbay.Path

/-- The segments of a path, in order. -/
def segments : List Char → List (List Char)
  | [] => [[]]
  | c :: rest =>
    if c = '/' then [] :: segments rest
    else
      match segments rest with
      | [] => [[c]]
      | segment :: others => (c :: segment) :: others

/-- The path with the given segments. -/
def ofSegments : List (List Char) → List Char
  | [] => []
  | [segment] => segment
  | segment :: rest => segment ++ '/' :: ofSegments rest

/-- Drops segments that add nothing from the end of a path. The segments are in reverse. -/
def trim : List (List Char) → List (List Char)
  | [] => []
  | [segment] => if segment = [] then [] else [segment]
  | segment :: rest => if segment = [] ∨ segment = ['.'] then trim rest else segment :: rest

/-- Whether segments in reverse are a path that does not end in something to drop. -/
def isTrimmed (segments : List (List Char)) : Bool :=
  segments ≠ [] ∧ trim segments = segments

/-- The path without its last segment that adds something; none for the empty path and
the root. -/
def parent? (path : String) : Option String :=
  match trim (segments path.toList).reverse with
  | [] => none
  | _ :: rest =>
    match trim rest with
    | [] => some (if path.startsWith "/" then "/" else "")
    | above => some (String.ofList (ofSegments above.reverse))

/-- What is left of segments in reverse when more and more of them are taken from the
front, as far as that is a path that does not end in something to drop. -/
def remainders : List (List Char) → List (List (List Char))
  | [] => []
  | _ :: rest => if isTrimmed rest then rest :: remainders rest else remainders rest

/-- The path and all paths above it, innermost first, without the root. -/
def lineage (path : String) : List String :=
  path :: (remainders (trim (segments path.toList).reverse)).map fun above =>
    String.ofList (ofSegments above.reverse)

/-- The part of a name before its extension. An extension starts at the last dot, unless
that is the first character. -/
def stem (name : List Char) : List Char :=
  match (name.reverse.dropWhile (· ≠ '.')).drop 1 with
  | [] => name
  | before => before.reverse

/-- Whether the name at the end of a path is a dot with an extension, and nothing follows
it. Without the text of the extension it is two dots, and no name any more. -/
def isDottedAtEnd (path : String) (name : List Char) : Bool :=
  stem name = ['.'] ∧ (segments path.toList).getLast? = some name

/-- The path with another extension for the name at its end, if there is a name. The old
extension is dropped first, and the new one is given only if there is still a name. -/
def withExtension (path extension : String) : String :=
  match trim (segments path.toList).reverse with
  | [] => path
  | name :: rest =>
    if name = ['.'] ∨ name = ['.', '.'] then path
    else
      let renamed :=
        if isDottedAtEnd path name then ['.', '.'] else stem name ++ '.' :: extension.toList
      String.ofList (ofSegments (rest.reverse ++ [renamed]))

end Patchbay.Path
