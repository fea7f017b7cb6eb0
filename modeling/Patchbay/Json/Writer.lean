import Patchbay.Json.Token

/-!
# Writing JSON

A value is written by laying its tokens out: each has some blanks in front of it, which
depend on the style. The compact style has no blanks at all, the indented one puts every
item and member on a line of its own.
-/

namespace Patchbay.Json

/-- How tokens are laid out. -/
structure Style where
  /-- What comes before an item, a member or an end at a depth. -/
  line : Nat → List Char
  /-- What comes between a colon and a value. -/
  afterColon : List Char

namespace Style

/-- No blanks. -/
def compact : Style :=
  { line := fun _ => [], afterColon := [] }

/-- One item or member per line, indented by two blanks for each level. -/
def indented : Style :=
  { line := fun depth => '\n' :: List.replicate (2 * depth) ' ', afterColon := [' '] }

end Style

/-- A token with the blanks in front of it. -/
structure Piece where
  gap : List Char
  token : Token
  deriving DecidableEq, Repr

/-- The characters of a piece. -/
def Piece.chars (piece : Piece) : List Char :=
  piece.gap ++ piece.token.chars

namespace Value

mutual

/-- Lays out a value at a depth, with `gap` in front of its first token. -/
def lay (style : Style) (depth : Nat) (gap : List Char) : Value → List Piece
  | .null => [⟨gap, .null⟩]
  | .bool value => [⟨gap, .bool value⟩]
  | .number numeral => [⟨gap, .number numeral⟩]
  | .string literal => [⟨gap, .string literal⟩]
  | .array [] => [⟨gap, .beginArray⟩, ⟨[], .endArray⟩]
  | .array (item :: rest) =>
    ⟨gap, .beginArray⟩ :: item.lay style (depth + 1) (style.line (depth + 1)) ++
      layItems style depth rest
  | .object [] => [⟨gap, .beginObject⟩, ⟨[], .endObject⟩]
  | .object ((name, value) :: rest) =>
    ⟨gap, .beginObject⟩ :: ⟨style.line (depth + 1), .string name⟩ :: ⟨[], .colon⟩ ::
      value.lay style (depth + 1) style.afterColon ++ layMembers style depth rest

/-- Lays out the further items of an array and its end. -/
def layItems (style : Style) (depth : Nat) : List Value → List Piece
  | [] => [⟨style.line depth, .endArray⟩]
  | item :: rest =>
    ⟨[], .comma⟩ :: item.lay style (depth + 1) (style.line (depth + 1)) ++
      layItems style depth rest

/-- Lays out the further members of an object and its end. -/
def layMembers (style : Style) (depth : Nat) : List (Literal × Value) → List Piece
  | [] => [⟨style.line depth, .endObject⟩]
  | (name, value) :: rest =>
    ⟨[], .comma⟩ :: ⟨style.line (depth + 1), .string name⟩ :: ⟨[], .colon⟩ ::
      value.lay style (depth + 1) style.afterColon ++ layMembers style depth rest

end

/-- The text of a value in a style. -/
def write (style : Style) (value : Value) : String :=
  String.ofList ((value.lay style 0 []).flatMap Piece.chars)

/-- The text of a value without blanks. -/
def compact (value : Value) : String :=
  value.write .compact

/-- The text of a value on many lines. -/
def indented (value : Value) : String :=
  value.write .indented

end Value

end Patchbay.Json
