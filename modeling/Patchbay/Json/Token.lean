import Patchbay.Json.Value

/-!
# Tokens

A JSON text is a sequence of tokens, with blanks allowed between them. `Token.scan` takes
a text apart, one character after the other; what it is in the middle of is a `Pending`.
-/

namespace Patchbay.Json

/-- The smallest units of a JSON text. -/
inductive Token
  | beginObject
  | endObject
  | beginArray
  | endArray
  | colon
  | comma
  | null
  | bool (value : Bool)
  | number (numeral : Numeral)
  | string (literal : Literal)
  deriving DecidableEq, Repr

namespace Token

/-- The characters of a token. -/
def chars : Token → List Char
  | .beginObject => ['\x7b']
  | .endObject => ['\x7d']
  | .beginArray => ['[']
  | .endArray => [']']
  | .colon => [':']
  | .comma => [',']
  | .null => ['n', 'u', 'l', 'l']
  | .bool true => ['t', 'r', 'u', 'e']
  | .bool false => ['f', 'a', 'l', 's', 'e']
  | .number numeral => numeral.text
  | .string literal => literal.chars

/-- The token that a run of letters, digits, signs and points stands for. -/
def ofWord? (word : List Char) : Option Token :=
  if word = chars .null then some .null
  else if word = chars (.bool true) then some (.bool true)
  else if word = chars (.bool false) then some (.bool false)
  else (Numeral.read word).map .number

end Token

/-- What a scanner is in the middle of. Characters and marks read so far are kept in
reverse. -/
inductive Pending
  /-- Between tokens. -/
  | nothing
  /-- A name without quotes or a number. -/
  | word (chars : List Char)
  /-- A string. -/
  | string (marks : List Mark)
  /-- After a backslash in a string. -/
  | escape (marks : List Mark)
  /-- In the hexadecimal number of a UTF-16 unit, of which `count` digits have been read. -/
  | unit (marks : List Mark) (count value : Nat)
  deriving DecidableEq, Repr

/-- The tokens read so far, in reverse, and what is pending. -/
structure Scan where
  tokens : List Token
  pending : Pending
  deriving DecidableEq, Repr

/-- Whether a character belongs to a word. -/
def isWordChar (c : Char) : Bool :=
  c.isAlphanum || c == '-' || c == '+' || c == '.'

/-- Whether a character may stand between tokens. -/
def isBlank (c : Char) : Bool :=
  c == ' ' || c == '\n' || c == '\r' || c == '\t'

/-- The value of a hexadecimal digit. -/
def hexValue? (c : Char) : Option Nat :=
  if c.isDigit then some (digitValue c)
  else if 'a' ≤ c ∧ c ≤ 'f' then some (c.toNat - 'a'.toNat + 10)
  else if 'A' ≤ c ∧ c ≤ 'F' then some (c.toNat - 'A'.toNat + 10)
  else none

namespace Scan

/-- Nothing has been read. -/
def start : Scan :=
  { tokens := [], pending := .nothing }

/-- Adds a token. -/
def push (scan : Scan) (token : Token) : Scan :=
  { tokens := token :: scan.tokens, pending := .nothing }

/-- Ends a pending word. -/
def endWord (scan : Scan) : Option Scan :=
  match scan.pending with
  | .word chars => (Token.ofWord? chars.reverse).map scan.push
  | _ => some scan

/-- Reads a character between tokens. -/
def begin (scan : Scan) (c : Char) : Option Scan :=
  if isWordChar c then some { scan with pending := .word [c] }
  else if isBlank c then some scan
  else match c with
    | '"' => some { scan with pending := .string [] }
    | '\x7b' => some (scan.push .beginObject)
    | '\x7d' => some (scan.push .endObject)
    | '[' => some (scan.push .beginArray)
    | ']' => some (scan.push .endArray)
    | ':' => some (scan.push .colon)
    | ',' => some (scan.push .comma)
    | _ => none

/-- Reads a character. -/
def step (scan : Scan) (c : Char) : Option Scan :=
  match scan.pending with
  | .nothing => scan.begin c
  | .word chars =>
    if isWordChar c then some { scan with pending := .word (c :: chars) }
    else do (← scan.endWord).begin c
  | .string marks =>
    if c = '"' then some (scan.push (.string ⟨marks.reverse⟩))
    else if c = '\\' then some { scan with pending := .escape marks }
    else if c.toNat < 0x20 then none
    else some { scan with pending := .string (.plain c :: marks) }
  | .escape marks =>
    if c = 'u' then some { scan with pending := .unit marks 0 0 }
    else do
      let escape ← Escape.ofLetter? c
      return { scan with pending := .string (.escaped escape :: marks) }
  | .unit marks count value => do
    let value := 16 * value + (← hexValue? c)
    if count = 3 then
      return { scan with pending := .string (.unit value.toUInt16 :: marks) }
    else
      return { scan with pending := .unit marks (count + 1) value }

/-- The tokens, when nothing is pending at the end of the text. -/
def finish (scan : Scan) : Option (List Token) := do
  let scan ← scan.endWord
  if scan.pending = .nothing then some scan.tokens.reverse else none

end Scan

/-- Takes a text apart into tokens. -/
def Token.scan (text : List Char) : Option (List Token) := do
  (← text.foldlM Scan.step Scan.start).finish

end Patchbay.Json
