/-!
# Bytes as text

Bodies and binary frames arrive as bytes. They are read as UTF-8 in two
ways: strictly, where the first fault ends the reading and is reported
with its place (`Utf8.decode`), and leniently, where every faulty run of
bytes becomes one replacement character (`Utf8.decodeLossy`). Both go by
`Utf8.next`, which is the first character of some bytes or what is wrong
there, so they agree on what a fault is and on how far it goes.
-/

namespace Liveboard.Utf8

/-- **What stands at the front of a list of bytes.** -/
inductive Front where
  /-- A character and the bytes after it. -/
  | char (c : Char) (rest : List UInt8)
  /-- A run of `length` bytes that no character starts with. -/
  | faulty (length : Nat) (rest : List UInt8)
  /-- A character that the end of the input cuts off. -/
  | cut

/-- The shape that the first byte of a longer character announces: its
own share of the code point, how many bytes follow, and the range of the
second byte. -/
def lead (b : Nat) : Option (Nat × Nat × Nat × Nat) :=
  if 0xC2 ≤ b ∧ b ≤ 0xDF then some (b - 0xC0, 1, 0x80, 0xBF)
  else if b = 0xE0 then some (0, 2, 0xA0, 0xBF)
  else if b = 0xED then some (0xD, 2, 0x80, 0x9F)
  else if 0xE1 ≤ b ∧ b ≤ 0xEF then some (b - 0xE0, 2, 0x80, 0xBF)
  else if b = 0xF0 then some (0, 3, 0x90, 0xBF)
  else if b = 0xF4 then some (4, 3, 0x80, 0x8F)
  else if 0xF1 ≤ b ∧ b ≤ 0xF3 then some (b - 0xF0, 3, 0x80, 0xBF)
  else none

/-- Reads the bytes that continue a character. `value` is what was read of
its code point, `taken` how many bytes it has so far. -/
def continued (value taken : Nat) : Nat → Nat → Nat → List UInt8 → Front
  | 0, _, _, rest => .char (Char.ofNat value) rest
  | _ + 1, _, _, [] => .cut
  | needed + 1, low, high, b :: rest =>
    if low ≤ b.toNat ∧ b.toNat ≤ high then
      continued (value * 64 + (b.toNat - 0x80)) (taken + 1) needed 0x80 0xBF rest
    else .faulty taken (b :: rest)

/-- What stands at the front of a non-empty list of bytes. -/
def next (b : UInt8) (rest : List UInt8) : Front :=
  if b.toNat < 0x80 then .char (Char.ofNat b.toNat) rest
  else match lead b.toNat with
    | some (value, needed, low, high) => continued value 1 needed low high rest
    | none => .faulty 1 rest

/-- Where and how a strict reading fails. -/
inductive Fault where
  /-- `length` bytes at `index` start no character. -/
  | faulty (length index : Nat)
  /-- The character at `index` is cut off by the end. -/
  | cut (index : Nat)
  deriving DecidableEq, Repr

/-- The wording of a fault. -/
def Fault.message : Fault → String
  | .faulty length index => s!"invalid utf-8 sequence of {length} bytes from index {index}"
  | .cut index => s!"incomplete utf-8 byte sequence from index {index}"

/-- The number of bytes a character is written with. -/
def width (c : Char) : Nat :=
  c.utf8Size

/-- The strict reading from a given place on, at most `fuel` characters. -/
def decodeFrom (index : Nat) : Nat → List UInt8 → Except Fault (List Char)
  | 0, _ => .ok []
  | _ + 1, [] => .ok []
  | fuel + 1, b :: rest =>
    match next b rest with
    | .char c rest => (decodeFrom (index + width c) fuel rest).map (c :: ·)
    | .faulty length _ => .error (.faulty length index)
    | .cut => .error (.cut index)

/-- **The strict reading.** -/
def decode (bytes : List UInt8) : Except Fault String :=
  (decodeFrom 0 bytes.length bytes).map String.ofList

/-- The lenient reading of at most `fuel` characters and faulty runs. -/
def decodeLossyFrom : Nat → List UInt8 → List Char
  | 0, _ => []
  | _ + 1, [] => []
  | fuel + 1, b :: rest =>
    match next b rest with
    | .char c rest => c :: decodeLossyFrom fuel rest
    | .faulty _ rest => '\uFFFD' :: decodeLossyFrom fuel rest
    | .cut => ['\uFFFD']

/-- **The lenient reading**: every faulty run becomes one replacement
character. -/
def decodeLossy (bytes : List UInt8) : String :=
  String.ofList (decodeLossyFrom bytes.length bytes)

end Liveboard.Utf8
