import Patchbay.Text.Hidden

/-!
# Quoted texts and listings

Messages show texts in double quotes, with escapes for what could be mistaken or not be
seen, and lists in brackets.
-/

namespace Patchbay.Text

/-- A character as it stands inside quotes. -/
def escape (c : Char) : String :=
  match c with
  | '"' => "\\\""
  | '\\' => "\\\\"
  | '\n' => "\\n"
  | '\r' => "\\r"
  | '\t' => "\\t"
  | '\x00' => "\\0"
  | c =>
    if isHidden c then "\\u\x7b" ++ String.ofList (Nat.toDigits 16 c.toNat) ++ "\x7d"
    else c.toString

/-- A text in double quotes. -/
def quoted (text : String) : String :=
  "\"" ++ String.join (text.toList.map escape) ++ "\""

/-- Items in brackets, separated by commas. -/
def listing (items : List String) : String :=
  "[" ++ ", ".intercalate items ++ "]"

end Patchbay.Text
