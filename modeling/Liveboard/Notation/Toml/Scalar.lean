import Liveboard.Decimal.Reading
import Liveboard.Json.Value
import Liveboard.Text.CodePoint

/-!
# Single values in settings by tables

Numbers, dates and texts as they are written in files of tables. A number
may group its digits by underscores, one between two digits. A date is kept
as a text, in one normal form, since no setting is a date and a complaint
about one shows it. Of what is written without quotes nothing tells the
kind before its end, so `Toml.bare?` takes all of it and tries one kind
after the other.
-/

namespace Liveboard.Toml

/-! ## Numbers -/

/-- Digits without the underscores between them; each underscore must have
a digit on both sides. -/
def ungroup? (isDigit : Char → Bool) : List Char → Option (List Char)
  | [] => none
  | [c] => if isDigit c then some [c] else none
  | c :: '_' :: rest =>
    if isDigit c then (ungroup? isDigit rest).map (c :: ·) else none
  | c :: rest => if isDigit c then (ungroup? isDigit rest).map (c :: ·) else none

/-- The decimal digits of a whole part, which has no leading zero. -/
def wholePart? (cs : List Char) : Option (List Char) := do
  let digits ← ungroup? Char.isDigit cs
  if digits.head? = some '0' && 1 < digits.length then none else some digits

/-- The digits that a base allows. -/
def inBase (base : Nat) (c : Char) : Bool :=
  match CodePoint.hexValue? c with
  | some n => n < base
  | none => false

/-- The number that digits of a base write. -/
def numberIn? (base : Nat) (cs : List Char) : Option Nat := do
  let digits ← ungroup? (inBase base) cs
  digits.foldlM (fun n c => (CodePoint.hexValue? c).map (n * base + ·)) 0

/-- A whole number of 64 bits. -/
def fitting? (n : Int) : Option Int :=
  if -(2 ^ 63) ≤ n ∧ n < 2 ^ 63 then some n else none

/-- **A whole number.** -/
def integer? (cs : List Char) : Option Int :=
  match cs with
  | '0' :: 'x' :: rest => (numberIn? 16 rest).bind fun n => fitting? n
  | '0' :: 'o' :: rest => (numberIn? 8 rest).bind fun n => fitting? n
  | '0' :: 'b' :: rest => (numberIn? 2 rest).bind fun n => fitting? n
  | _ =>
    let (negative, rest) := splitSign cs
    (wholePart? rest).bind fun digits =>
      fitting? (if negative then -(digitsValue digits : Int) else digitsValue digits)

/-- Whether a character marks an exponent. -/
def isExponentMark (c : Char) : Bool := c = 'e' || c = 'E'

/-- The exponent that follows a number. -/
def exponent? : List Char → Option Int
  | [] => some 0
  | _ :: rest =>
    let (negative, digits) := splitSign rest
    (ungroup? Char.isDigit digits).map fun digits =>
      if negative then -(digitsValue digits : Int) else digitsValue digits

/-- **A double**: with a point or an exponent, or one of the words for what
is no finite number. -/
def double? (cs : List Char) : Option Float :=
  let (negative, cs) := splitSign cs
  match String.ofList cs with
  | "inf" => some (if negative then -1.0 / 0.0 else 1.0 / 0.0)
  | "nan" => some (0.0 / 0.0)
  | _ => do
    let number := cs.takeWhile (!isExponentMark ·)
    let power ← exponent? (cs.dropWhile (!isExponentMark ·))
    let whole ← wholePart? (number.takeWhile (· ≠ '.'))
    let fraction ← match number.dropWhile (· ≠ '.') with
      | [] => some []
      | _ :: digits => ungroup? Char.isDigit digits
    let x := floatOfDecimal negative (digitsValue (whole ++ fraction))
      (power - (fraction.length : Int))
    if x.isInf then none else some x

/-- **A number.** -/
def number? (cs : List Char) : Option Json :=
  match integer? cs with
  | some n => some (.int n)
  | none =>
    if cs.any fun c => c = '.' || isExponentMark c || c = 'n' then (double? cs).map .float
    else none

/-! ## Dates -/

/-- A number of exactly `width` digits, and what follows it. -/
def digits? (width : Nat) (cs : List Char) : Option (Nat × List Char) :=
  let digits := cs.take width
  if digits.length = width && digits.all Char.isDigit then
    some (digitsValue digits, cs.drop width)
  else none

/-- What follows a character. -/
def after? (c : Char) : List Char → Option (List Char)
  | d :: rest => if c = d then some rest else none
  | [] => none

/-- The number of days in a month. -/
def daysIn (year month : Nat) : Nat :=
  if month = 2 then
    if year % 4 = 0 && (year % 100 ≠ 0 || year % 400 = 0) then 29 else 28
  else if [4, 6, 9, 11].contains month then 30 else 31

/-- Digits in front of a text up to a width. -/
def padded (width n : Nat) : String :=
  let digits := toString n
  String.ofList (List.replicate (width - digits.length) '0') ++ digits

/-- A day, and what follows it. -/
def day? (cs : List Char) : Option (String × List Char) := do
  let (year, cs) ← digits? 4 cs
  let (month, cs) ← digits? 2 (← after? '-' cs)
  let (day, cs) ← digits? 2 (← after? '-' cs)
  if 1 ≤ month && month ≤ 12 && 1 ≤ day && day ≤ daysIn year month then
    some (s!"{padded 4 year}-{padded 2 month}-{padded 2 day}", cs)
  else none

/-- The digits of a fraction of a second in normal form: at most nine, none
of them a zero at the end. -/
def fractionText (digits : List Char) : String :=
  let kept := ((digits.take 9).reverse.dropWhile (· = '0')).reverse
  if kept.isEmpty then "" else "." ++ String.ofList kept

/-- The seconds of a time, if there are any, and what follows them. -/
def seconds? : List Char → Option (String × List Char)
  | ':' :: cs => do
    let (second, cs) ← digits? 2 cs
    if 60 < second then none
    else match cs with
      | '.' :: cs =>
        let digits := cs.takeWhile Char.isDigit
        if digits.isEmpty then none
        else some (":" ++ padded 2 second ++ fractionText digits, cs.dropWhile Char.isDigit)
      | cs => some (":" ++ padded 2 second, cs)
  | cs => some ("", cs)

/-- Hours and minutes, and what follows them. -/
def clock? (cs : List Char) : Option (Nat × Nat × List Char) := do
  let (hour, cs) ← digits? 2 cs
  let (minute, cs) ← digits? 2 (← after? ':' cs)
  if hour < 24 && minute < 60 then some (hour, minute, cs) else none

/-- A time of the day, and what follows it. -/
def time? (cs : List Char) : Option (String × List Char) := do
  let (hour, minute, cs) ← clock? cs
  let (seconds, cs) ← seconds? cs
  return (s!"{padded 2 hour}:{padded 2 minute}" ++ seconds, cs)

/-- The distance from the time of the prime meridian, which takes up the
whole list. -/
def offset? : List Char → Option String
  | [] => some ""
  | ['Z'] | ['z'] => some "Z"
  | sign :: cs => do
    let (hour, minute, rest) ← clock? cs
    if !rest.isEmpty || !(sign = '+' || sign = '-') then none
    else
      let shown := if sign = '-' && (hour ≠ 0 || minute ≠ 0) then "-" else "+"
      some s!"{shown}{padded 2 hour}:{padded 2 minute}"

/-- **The normal form of a date**, a time, or both. -/
def date? (cs : List Char) : Option String :=
  match day? cs with
  | some (day, []) => some day
  | some (day, mark :: rest) =>
    if mark = 'T' || mark = 't' || mark = ' ' then do
      let (time, rest) ← time? rest
      let offset ← offset? rest
      return day ++ "T" ++ time ++ offset
    else none
  | none =>
    match time? cs with
    | some (time, []) => some time
    | _ => none

/-! ## What is written without quotes -/

/-- Whether a character may stand in a value without quotes. -/
def isBare (c : Char) : Bool :=
  c.isAlphanum || c = '_' || c = '-' || c = '+' || c = '.' || c = ':'

/-- The characters of a value without quotes, and what follows them. A day
and a time may have a blank between them. -/
def splitBare (cs : List Char) : List Char × List Char :=
  let first := cs.takeWhile isBare
  let rest := cs.dropWhile isBare
  match rest with
  | ' ' :: c :: more =>
    if c.isDigit && ((day? first).any fun (_, rest) => rest.isEmpty) then
      (first ++ ' ' :: (c :: more).takeWhile isBare, (c :: more).dropWhile isBare)
    else (first, rest)
  | _ => (first, rest)

/-- **The value of a text without quotes.** -/
def bare? (cs : List Char) : Option Json :=
  match String.ofList cs with
  | "true" => some (.bool true)
  | "false" => some (.bool false)
  | _ =>
    match number? cs with
    | some v => some v
    | none => (date? cs).map .string

/-! ## Texts -/

/-- Whether a character may stand in a text or a comment. -/
def isPlain (c : Char) : Bool :=
  c = '\t' || (0x20 ≤ c.toNat && c.toNat ≠ 0x7F)

/-- The character that a letter stands for after a backslash. -/
def escape? : Char → Option Char
  | 'b' => some (Char.ofNat 8)
  | 't' => some '\t'
  | 'n' => some '\n'
  | 'f' => some (Char.ofNat 12)
  | 'r' => some '\r'
  | 'e' => some (Char.ofNat 27)
  | '"' => some '"'
  | '\\' => some '\\'
  | _ => none

/-- The escaped character at the start, and the number of characters that
write it, without the backslash. -/
def escaped? : List Char → Option (Char × Nat)
  | 'x' :: rest => (CodePoint.ofDigits? (rest.take 2)).bind fun c =>
    if 2 ≤ rest.length then some (c, 3) else none
  | 'u' :: rest => (CodePoint.ofDigits? (rest.take 4)).bind fun c =>
    if 4 ≤ rest.length then some (c, 5) else none
  | 'U' :: rest => (CodePoint.ofDigits? (rest.take 8)).bind fun c =>
    if 8 ≤ rest.length then some (c, 9) else none
  | c :: _ => (escape? c).map fun c => (c, 1)
  | [] => none

/-- The rest of a text between quotation marks, and what follows it; `skip`
characters belong to an escape. -/
def quoted? (skip : Nat) : List Char → Option (List Char × List Char)
  | [] => none
  | c :: rest =>
    if 0 < skip then quoted? (skip - 1) rest
    else if c = '"' then some ([], rest)
    else if c = '\\' then do
      let (c, length) ← escaped? rest
      let (text, rest) ← quoted? length rest
      return (c :: text, rest)
    else if isPlain c then (quoted? 0 rest).map fun (text, rest) => (c :: text, rest)
    else none

/-- The rest of a text between apostrophes, and what follows it. -/
def literal? : List Char → Option (List Char × List Char)
  | [] => none
  | c :: rest =>
    if c = '\'' then some ([], rest)
    else if isPlain c then (literal? rest).map fun (text, rest) => (c :: text, rest)
    else none

/-- Whether a backslash in front of a text joins its line to the next. -/
def joinsLines (cs : List Char) : Bool :=
  match cs.dropWhile fun c => c = ' ' || c = '\t' with
  | '\n' :: _ | '\r' :: '\n' :: _ => true
  | _ => false

/-- Whether a character is left out where lines are joined. -/
def isJoint (c : Char) : Bool :=
  c = ' ' || c = '\t' || c = '\n' || c = '\r'

/-- The rest of a text of several lines, and what follows it. `quote` is the
mark that ends it, three times, and up to two more marks before those
belong to it. While `joining`, white space is left out; `skip` characters
belong to an escape. -/
def lines? (quote : Char) (joining : Bool) (skip : Nat) :
    List Char → Option (List Char × List Char)
  | [] => none
  | c :: rest =>
    let keep (c : Char) (more : Option (List Char × List Char)) :
        Option (List Char × List Char) := more.map fun (text, rest) => (c :: text, rest)
    if 0 < skip then lines? quote joining (skip - 1) rest
    else if joining && isJoint c then lines? quote true 0 rest
    else if c = quote then
      match (rest.takeWhile (· = quote)).length with
      | 0 | 1 => keep c (lines? quote false 0 rest)
      | 2 => some ([], rest.drop 2)
      | 3 => some ([quote], rest.drop 3)
      | _ => some ([quote, quote], rest.drop 4)
    else if c = '\\' && quote = '"' then
      if joinsLines rest then lines? quote true 0 rest
      else (escaped? rest).bind fun (c, length) => keep c (lines? quote false length rest)
    else if c = '\r' then
      if rest.head? = some '\n' then lines? quote false 0 rest else none
    else if c = '\n' || isPlain c then keep c (lines? quote false 0 rest)
    else none

/-- A text without the line break at its start. -/
def dropLineBreak : List Char → List Char
  | '\n' :: rest => rest
  | '\r' :: '\n' :: rest => rest
  | cs => cs

/-- **A text at the start, and what follows it.** -/
def text? : List Char → Option (List Char × List Char)
  | '"' :: '"' :: '"' :: rest => lines? '"' false 0 (dropLineBreak rest)
  | '\'' :: '\'' :: '\'' :: rest => lines? '\'' false 0 (dropLineBreak rest)
  | '"' :: rest => quoted? 0 rest
  | '\'' :: rest => literal? rest
  | _ => none

end Liveboard.Toml
