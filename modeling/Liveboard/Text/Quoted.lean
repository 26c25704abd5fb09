import Liveboard.Text.Printable

/-!
# Quoted texts in messages

A message that shows a text quotes it, so that the reader sees where it
ends and what it holds: quotes and backslashes are escaped, the common
controls have short names, and every other character without a visible
form of its own is written as its code point (`Quoted.escape`).
-/

namespace Liveboard.Quoted

/-- The digits of a code point in lower-case hexadecimal. -/
def hex (n : Nat) : String :=
  String.ofList (Nat.toDigits 16 n)

/-- The written form of one character. -/
def escape (c : Char) : String :=
  match c with
  | '\x00' => "\\0"
  | '\t' => "\\t"
  | '\r' => "\\r"
  | '\n' => "\\n"
  | '"' => "\\\""
  | '\\' => "\\\\"
  | c =>
    if Printable.isExtending c || Printable.isInvisible c then
      "\\u\x7b" ++ hex c.toNat ++ "\x7d"
    else String.singleton c

/-- The written form of a text, between quotes. -/
def quote (s : String) : String :=
  "\"" ++ String.join (s.toList.map escape) ++ "\""

end Liveboard.Quoted
