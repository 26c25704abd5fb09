import Liveboard.Decimal.Reading
import Liveboard.Json.Value
import Liveboard.Json.Document

/-!
# The meaning of JSON documents

The inner layer of reading: numbers become whole numbers or doubles, code
units become characters, and nesting is bounded. A document has a meaning
when every part of it has one (`Document.toJson?`), and a text has the
meaning of its document (`Json.ofText?`).

A number without a point and an exponent stays a whole number as long as it
fits into 64 bits (`Numeral.toJson?`). A larger one becomes a double, and so
does every number that is written as one.
-/

namespace Liveboard

namespace Numeral

/-- The exponent of the last written digit. -/
def scale (n : Numeral) : Int :=
  let written : Int := match n.exponent with
    | some (true, digits) => -(digitsValue digits : Int)
    | some (false, digits) => digitsValue digits
    | none => 0
  written - ((n.fraction.getD []).length : Int)

/-- **The double that a number stands for**; none if it is beyond the
largest. It is the nearest one, which is the rule of this reader: one that
only does its best may be off by one in the last place where a number has
more digits than a double can hold. -/
def toFloat? (n : Numeral) : Option Float :=
  let x := floatOfDecimal n.negative (digitsValue (n.whole ++ n.fraction.getD [])) n.scale
  if x.isInf then none else some x

/-- **The value of a number.** Written without point and exponent it is a
whole number if it fits 64 bits with or without sign; minus zero does
not, as a whole number has no signed zero. -/
def toJson? (n : Numeral) : Option Json :=
  let whole := digitsValue n.whole
  if n.fraction.isNone && n.exponent.isNone && !(n.negative && whole == 0)
      && (if n.negative then whole ≤ 2 ^ 63 else whole < 2 ^ 64) then
    some (.int (if n.negative then -(whole : Int) else whole))
  else n.toFloat?.map .float

end Numeral

/-- **The text of its pieces.** A high half of a surrogate pair needs the
low half right behind it; a lone half has no meaning. -/
def Piece.toText? : List Piece → Option (List Char)
  | [] => some []
  | .char c :: rest => (toText? rest).map (c :: ·)
  | .unit u :: .unit v :: rest =>
    if 0xD800 ≤ u ∧ u < 0xDC00 then
      if 0xDC00 ≤ v ∧ v < 0xE000 then
        (toText? rest).map (Char.ofNat (0x10000 + (u - 0xD800) * 0x400 + (v - 0xDC00)) :: ·)
      else none
    else if 0xDC00 ≤ u ∧ u < 0xE000 then none
    else (toText? (.unit v :: rest)).map (Char.ofNat u :: ·)
  | .unit u :: rest =>
    if 0xD800 ≤ u ∧ u < 0xE000 then none
    else (toText? rest).map (Char.ofNat u :: ·)

/-- The string of its pieces. -/
def Piece.toString? (pieces : List Piece) : Option String :=
  (Piece.toText? pieces).map String.ofList

mutual

/-- **The value of a tree** that nests at most `depth` containers. -/
def Document.toJson? (depth : Nat) : Document → Option Json
  | .null => some .null
  | .bool b => some (.bool b)
  | .number n => n.toJson?
  | .text pieces => (Piece.toString? pieces).map .string
  | .array items =>
    if depth = 0 then none
    else (Document.itemsToJson? (depth - 1) items).map .array
  | .object members =>
    if depth = 0 then none
    else (Document.membersToJson? (depth - 1) members).map Json.ofMembers

/-- The values of the items of an array. -/
def Document.itemsToJson? (depth : Nat) : List Document → Option (List Json)
  | [] => some []
  | item :: rest => do
    let value ← item.toJson? depth
    let more ← Document.itemsToJson? depth rest
    return value :: more

/-- The members of an object, their keys read as texts. -/
def Document.membersToJson? (depth : Nat) :
    List (List Piece × Document) → Option (List (String × Json))
  | [] => some []
  | (key, value) :: rest => do
    let key ← Piece.toString? key
    let value ← value.toJson? depth
    let more ← Document.membersToJson? depth rest
    return (key, value) :: more

end

/-- The number of containers that a text may nest. -/
def Document.maxDepth : Nat := 127

/-- **The value of a text.** -/
def Json.ofText? (s : String) : Option Json := do
  let tree ← Document.ofText? s
  tree.toJson? Document.maxDepth

end Liveboard
