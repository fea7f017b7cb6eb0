import Patchbay.Json.Numeral

/-!
# String literals

The strings of a text as they are written: characters that stand for themselves, and
escapes. A literal with one half of a surrogate pair stands for no text; whether that
matters is left to its reader.
-/

namespace Patchbay.Json

/-- The escapes that are a letter after a backslash. -/
inductive Escape
  | quote
  | backslash
  | slash
  | backspace
  | formFeed
  | newline
  | carriageReturn
  | tab
  deriving DecidableEq, Repr

namespace Escape

/-- The letter after the backslash. -/
def letter : Escape → Char
  | .quote => '"'
  | .backslash => '\\'
  | .slash => '/'
  | .backspace => 'b'
  | .formFeed => 'f'
  | .newline => 'n'
  | .carriageReturn => 'r'
  | .tab => 't'

/-- The character that an escape stands for. -/
def meaning : Escape → Char
  | .quote => '"'
  | .backslash => '\\'
  | .slash => '/'
  | .backspace => '\x08'
  | .formFeed => '\x0c'
  | .newline => '\n'
  | .carriageReturn => '\r'
  | .tab => '\t'

/-- The escape with a letter. -/
def ofLetter? : Char → Option Escape
  | '"' => some .quote
  | '\\' => some .backslash
  | '/' => some .slash
  | 'b' => some .backspace
  | 'f' => some .formFeed
  | 'n' => some .newline
  | 'r' => some .carriageReturn
  | 't' => some .tab
  | _ => none

end Escape

/-- A part of a literal. -/
inductive Mark
  /-- A character that stands for itself. -/
  | plain (c : Char)
  | escaped (escape : Escape)
  /-- A UTF-16 unit, written by its number. -/
  | unit (number : UInt16)
  deriving DecidableEq, Repr

namespace Mark

/-- How a character is written in a literal. -/
def ofChar (c : Char) : Mark :=
  match c with
  | '"' => .escaped .quote
  | '\\' => .escaped .backslash
  | '\x08' => .escaped .backspace
  | '\x0c' => .escaped .formFeed
  | '\n' => .escaped .newline
  | '\r' => .escaped .carriageReturn
  | '\t' => .escaped .tab
  | c => if c.toNat < 0x20 then .unit c.toNat.toUInt16 else .plain c

/-- The four hexadecimal digits of a UTF-16 unit. -/
def hexDigits (number : UInt16) : List Char :=
  [Nat.digitChar (number.toNat / 0x1000), Nat.digitChar (number.toNat / 0x100 % 0x10),
    Nat.digitChar (number.toNat / 0x10 % 0x10), Nat.digitChar (number.toNat % 0x10)]

/-- The characters of a mark. -/
def chars : Mark → List Char
  | .plain c => [c]
  | .escaped escape => ['\\', escape.letter]
  | .unit number => '\\' :: 'u' :: hexDigits number

end Mark

/-- Whether a UTF-16 unit is the first half of a pair. -/
def isHighSurrogate (number : UInt16) : Bool :=
  0xd800 ≤ number && number < 0xdc00

/-- Whether a UTF-16 unit is the second half of a pair. -/
def isLowSurrogate (number : UInt16) : Bool :=
  0xdc00 ≤ number && number < 0xe000

/-- The character that the two halves of a pair stand for. -/
def pairedChar (high low : UInt16) : Char :=
  Char.ofNat (0x10000 + 0x400 * (high.toNat - 0xd800) + (low.toNat - 0xdc00))

/-- The text that the marks read so far stand for, in reverse, and the first half of a
pair that waits for the second. -/
structure Spelling where
  chars : List Char
  high : Option UInt16
  deriving DecidableEq, Repr

namespace Spelling

/-- Nothing has been read. -/
def start : Spelling :=
  { chars := [], high := none }

/-- Adds a character. -/
def push (spelling : Spelling) (c : Char) : Spelling :=
  { chars := c :: spelling.chars, high := none }

/-- Reads a mark. The second half of a pair has to follow the first at once. -/
def step (spelling : Spelling) (mark : Mark) : Option Spelling :=
  match spelling.high, mark with
  | some high, .unit number =>
    if isLowSurrogate number then some (spelling.push (pairedChar high number)) else none
  | some _, _ => none
  | none, .plain c => some (spelling.push c)
  | none, .escaped escape => some (spelling.push escape.meaning)
  | none, .unit number =>
    if isHighSurrogate number then some { spelling with high := some number }
    else if isLowSurrogate number then none
    else some (spelling.push (Char.ofNat number.toNat))

end Spelling

/-- A string as it is written. -/
structure Literal where
  marks : List Mark
  deriving DecidableEq, Repr

namespace Literal

/-- The literal of a text. Only what may not stand for itself is escaped. -/
def ofText (text : String) : Literal :=
  ⟨text.toList.map Mark.ofChar⟩

/-- The text that a literal stands for, if every surrogate in it is half of a pair. -/
def text? (literal : Literal) : Option String := do
  let spelling ← literal.marks.foldlM Spelling.step Spelling.start
  if spelling.high.isSome then none else some (String.ofList spelling.chars.reverse)

/-- The characters of a literal without escapes. -/
def plain? (literal : Literal) : Option (List Char) :=
  literal.marks.mapM fun
    | .plain c => some c
    | _ => none

/-- The characters of a literal with its quotes. -/
def chars (literal : Literal) : List Char :=
  '"' :: literal.marks.flatMap Mark.chars ++ ['"']

end Literal

end Patchbay.Json
