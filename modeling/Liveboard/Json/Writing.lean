import Liveboard.Json.Value
import Liveboard.Decimal.Layout

/-!
# Writing JSON

Values are written in two layouts: compact, for request bodies and
frames (`Json.compact`), and indented by two spaces, for the reader at the
terminal (`Json.indented`). Both write the members of an object in the
order the value holds them, and a double with the fewest digits that read
back; a double that is no number is written `null`.
-/

namespace Liveboard.Json

/-- A digit of a lower-case hexadecimal number. -/
def hexDigit (n : Nat) : Char :=
  if n < 10 then Char.ofNat ('0'.toNat + n) else Char.ofNat ('a'.toNat + (n - 10))

/-- The written form of one character of a text. Controls without a short
escape are written as four hexadecimal digits; nothing else is escaped. -/
def escapeChar (c : Char) : List Char :=
  match c with
  | '"' => ['\\', '"']
  | '\\' => ['\\', '\\']
  | '\x08' => ['\\', 'b']
  | '\x0C' => ['\\', 'f']
  | '\n' => ['\\', 'n']
  | '\r' => ['\\', 'r']
  | '\t' => ['\\', 't']
  | c =>
    if c.toNat < 0x20 then
      ['\\', 'u', '0', '0', hexDigit (c.toNat / 16), hexDigit (c.toNat % 16)]
    else [c]

/-- The written form of a text, between quotes. -/
def writeText (s : String) : String :=
  "\"" ++ String.ofList (s.toList.flatMap escapeChar) ++ "\""

/-- The written form of a double; what is no number is written as `null`. -/
def writeFloat (x : Float) : String :=
  if x.isFinite then FloatLayout.data.render x else "null"

mutual

/-- **The value on one line**, without blanks. -/
def compact : Json → String
  | .null => "null"
  | .bool b => if b then "true" else "false"
  | .int n => toString n
  | .float x => writeFloat x
  | .string s => writeText s
  | .array items => "[" ++ compactItems items ++ "]"
  | .object members => "\x7b" ++ compactMembers members ++ "\x7d"

/-- The items of an array, separated by commas. -/
def compactItems : List Json → String
  | [] => ""
  | [item] => item.compact
  | item :: rest => item.compact ++ "," ++ compactItems rest

/-- The members of an object, separated by commas. -/
def compactMembers : List (String × Json) → String
  | [] => ""
  | [(key, value)] => writeText key ++ ":" ++ value.compact
  | (key, value) :: rest =>
    writeText key ++ ":" ++ value.compact ++ "," ++ compactMembers rest

end

/-- A new line at a given depth. -/
def newline (depth : Nat) : String :=
  "\n" ++ String.ofList (List.replicate (2 * depth) ' ')

mutual

/-- The value with its items and members on lines of their own, at a given
depth. Empty containers stay on one line. -/
def indentedAt (depth : Nat) : Json → String
  | .null => "null"
  | .bool b => if b then "true" else "false"
  | .int n => toString n
  | .float x => writeFloat x
  | .string s => writeText s
  | .array [] => "[]"
  | .array items => "[" ++ indentedItems (depth + 1) items ++ newline depth ++ "]"
  | .object [] => "\x7b\x7d"
  | .object members =>
    "\x7b" ++ indentedMembers (depth + 1) members ++ newline depth ++ "\x7d"

/-- The items of an array, each on a line of its own. -/
def indentedItems (depth : Nat) : List Json → String
  | [] => ""
  | [item] => newline depth ++ item.indentedAt depth
  | item :: rest => newline depth ++ item.indentedAt depth ++ "," ++ indentedItems depth rest

/-- The members of an object, each on a line of its own. -/
def indentedMembers (depth : Nat) : List (String × Json) → String
  | [] => ""
  | [(key, value)] => newline depth ++ writeText key ++ ": " ++ value.indentedAt depth
  | (key, value) :: rest =>
    newline depth ++ writeText key ++ ": " ++ value.indentedAt depth ++ ","
      ++ indentedMembers depth rest

end

/-- **The value over several lines**, indented by two spaces. -/
def indented (v : Json) : String :=
  v.indentedAt 0

end Liveboard.Json
