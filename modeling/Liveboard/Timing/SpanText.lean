import Liveboard.Timing.Span
import Liveboard.Text.Blank

/-!
# Spans of time as text

Settings give delays in words such as `500ms` or `1h 30m`. A text is a
sequence of parts, each a number, perhaps with a fraction, and a unit;
the parts add up. Numbers are words of 64 bits and a fraction has to come
out even, so that every accepted text stands for one exact span. A text that
is refused is refused with a complaint, whose wording is shown to whoever
wrote the settings (`SpanText.Complaint`).
-/

namespace Liveboard

/-- **The units of spans.** -/
inductive SpanUnit where
  /-- Nanoseconds. -/
  | nanosecond
  /-- Microseconds. -/
  | microsecond
  /-- Milliseconds. -/
  | millisecond
  /-- Seconds. -/
  | second
  /-- Minutes. -/
  | minute
  /-- Hours. -/
  | hour
  /-- Days. -/
  | day
  /-- Weeks. -/
  | week
  /-- Twelfths of a year. -/
  | month
  /-- Years of 365.25 days. -/
  | year
  deriving DecidableEq, Repr

namespace SpanUnit

/-- The names of the units. -/
def names : List (SpanUnit × List String) := [
  (.nanosecond, ["nanos", "nsec", "ns"]),
  (.microsecond, ["usec", "us", "µs"]),
  (.millisecond, ["millis", "msec", "ms"]),
  (.second, ["seconds", "second", "secs", "sec", "s"]),
  (.minute, ["minutes", "minute", "min", "mins", "m"]),
  (.hour, ["hours", "hour", "hr", "hrs", "h"]),
  (.day, ["days", "day", "d"]),
  (.week, ["weeks", "week", "wk", "wks", "w"]),
  (.month, ["months", "month", "M"]),
  (.year, ["years", "year", "yr", "yrs", "y"])]

/-- The unit of a name. -/
def ofName? (name : String) : Option SpanUnit :=
  (names.find? fun (_, ns) => ns.contains name).map (·.1)

/-- The grain that a unit is counted in, in nanoseconds: one nanosecond
for the units up to minutes, one second for the longer ones. -/
def grain : SpanUnit → Nat
  | .nanosecond | .microsecond | .millisecond | .second | .minute => 1
  | _ => 10 ^ 9

/-- The size of a unit in its grain. -/
def size : SpanUnit → Nat
  | .nanosecond => 1
  | .microsecond => 10 ^ 3
  | .millisecond => 10 ^ 6
  | .second => 10 ^ 9
  | .minute => 60 * 10 ^ 9
  | .hour => 3600
  | .day => 86400
  | .week => 604800
  | .month => 2630016
  | .year => 31557600

end SpanUnit

namespace SpanText

/-- **Why a text is refused.** Places are counted in bytes. -/
inductive Complaint where
  /-- There is nothing in it. -/
  | empty
  /-- A number should start at this place. -/
  | numberExpected (place : Nat)
  /-- A character that fits nowhere. -/
  | badCharacter (place : Nat)
  /-- A number without unit. -/
  | unitMissing (value : Nat)
  /-- A unit of an unknown name. -/
  | unknownUnit (name : String)
  /-- Too large, or not a whole number of the smallest grain. -/
  | unrepresentable
  deriving DecidableEq, Repr

/-- The wording of a complaint. -/
def Complaint.message : Complaint → String
  | .empty => "value was empty"
  | .numberExpected place => s!"expected number at {place}"
  | .badCharacter place => s!"invalid character at {place}"
  | .unitMissing value => s!"time unit needed, for example {value}sec or {value}ms"
  | .unknownUnit name =>
    s!"unknown time unit \"{name}\", supported units: ns, us/µs, ms, sec, min, hours, days, " ++
      "weeks, months, years (and few variations)"
  | .unrepresentable =>
    "number is too large or cannot be represented without a lack of precision " ++
      "(values below 1ns are not supported)"

/-- The limit of all numbers. -/
def limit : Nat := 2 ^ 64

/-- A number below the limit. -/
def bounded (n : Nat) : Except Complaint Nat :=
  if n < limit then .ok n else .error .unrepresentable

/-- The characters that units are made of. -/
def isUnitChar (c : Char) : Bool :=
  c.isAlpha || c == 'µ'

/-- The value of a digit. -/
def digit (c : Char) : Nat := c.toNat - '0'.toNat

/-- A fraction: its digits as a number, and the power of ten below it. -/
structure Fraction where
  /-- The digits behind the point. -/
  numerator : Nat
  /-- Ten to the number of these digits. -/
  denominator : Nat

/-- **A part of a text**: how far it has been read. -/
inductive Reading where
  /-- Before a number; `first` as long as no part is complete. -/
  | gap (first : Bool)
  /-- Inside the whole part of a number. -/
  | whole (value : Nat)
  /-- Inside the fraction of a number; `fault` is the place that is
  reported if the fraction turns out wrong. -/
  | fraction (value : Nat) (fraction : Fraction) (fault : Nat)
  /-- Inside a unit, its letters in reverse. -/
  | unit (value : Nat) (fraction : Option Fraction) (letters : List Char)

/-- The length of a part, in nanoseconds. -/
def amount (value : Nat) (fraction : Option Fraction) (letters : List Char) :
    Except Complaint Nat :=
  if letters.isEmpty then .error (.unitMissing value)
  else
    let name := String.ofList letters.reverse
    match SpanUnit.ofName? name with
    | none => .error (.unknownUnit name)
    | some unit => do
      let whole ← bounded (value * unit.size)
      let part ← match fraction with
        | none => .ok 0
        | some f =>
          if unit = .nanosecond then .error .unrepresentable
          else do
            let scaled ← bounded (f.numerator * unit.size)
            if scaled % f.denominator = 0 then .ok (scaled / f.denominator)
            else .error .unrepresentable
      return (whole + part) * unit.grain

/-- Adds a part to the parts before. -/
def addPart (total value : Nat) (fraction : Option Fraction) (letters : List Char) :
    Except Complaint Nat := do
  let total := total + (← amount value fraction letters)
  if total / 10 ^ 9 < limit then return total else throw .unrepresentable

/-- **One character** at a place: what was read of the current part and the
total of the parts before. -/
def step (place : Nat) (c : Char) (total : Nat) : Reading → Except Complaint (Nat × Reading)
  | .gap first =>
    if c.isDigit then .ok (total, .whole (digit c))
    else if Blank.isBlank c then .ok (total, .gap first)
    else .error (.numberExpected place)
  | .whole value =>
    if c.isDigit then do return (total, .whole (← bounded (value * 10 + digit c)))
    else if Blank.isBlank c then .ok (total, .whole value)
    else if isUnitChar c then .ok (total, .unit value none [c])
    else if c == '.' then .ok (total, .fraction value ⟨0, 1⟩ place)
    else .error (.badCharacter place)
  | .fraction value f fault =>
    let after := place + c.utf8Size
    if c.isDigit then do
      let denominator ← bounded (f.denominator * 10)
      let numerator ← bounded (f.numerator * 10 + digit c)
      return (total, .fraction value ⟨numerator, denominator⟩ after)
    else if Blank.isBlank c then .ok (total, .fraction value f after)
    else if isUnitChar c then
      if f.denominator = 1 then .error (.badCharacter fault)
      else .ok (total, .unit value (some f) [c])
    else .error (.badCharacter fault)
  | .unit value f letters =>
    if isUnitChar c then .ok (total, .unit value f (c :: letters))
    else if c.isDigit then do return (← addPart total value f letters, .whole (digit c))
    else if Blank.isBlank c then do return (← addPart total value f letters, .gap false)
    else .error (.badCharacter place)

/-- The end of the text. -/
def finish (total : Nat) : Reading → Except Complaint Nat
  | .gap first => if first then .error .empty else .ok total
  | .whole value => addPart total value none []
  | .fraction value f fault =>
    if f.denominator = 1 then .error (.badCharacter fault)
    else addPart total value (some f) []
  | .unit value f letters => addPart total value f letters

/-- Reads the characters from a place on. -/
def run (place total : Nat) (reading : Reading) : List Char → Except Complaint Nat
  | [] => finish total reading
  | c :: rest => do
    let (total, reading) ← step place c total reading
    run (place + c.utf8Size) total reading rest

/-- **The span of a text.** A lone zero needs no unit. -/
def parse (s : String) : Except Complaint Span :=
  if s = "0" then .ok .zero
  else (run 0 0 (.gap true) s.toList).map Span.mk

end SpanText

end Liveboard
