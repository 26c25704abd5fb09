/-!
# Percent encoding

A character that must not stand in a part of an address is written as its
UTF-8 bytes, each as a percent sign and two hexadecimal digits. Which
characters these are depends on the part, so the encoding has the set of
bytes as an argument, and the sets are named for their parts:
`Percent.path`, `Percent.query`, `Percent.userinfo` and the others. A percent
sign is in none of them, for what was encoded already should not be encoded
again.
-/

namespace Liveboard.Percent

/-- Whether a byte stands for one of the characters of a text. -/
def isOneOf (s : String) (b : UInt8) : Bool :=
  s.toList.any fun c => c.toNat = b.toNat

/-- Control characters and everything beyond ASCII. -/
def controls (b : UInt8) : Bool := b < 0x20 || 0x7E < b

/-- What is encoded in a fragment. -/
def fragment (b : UInt8) : Bool := controls b || isOneOf " \"<>`" b

/-- What is encoded in a query. -/
def query (b : UInt8) : Bool := controls b || isOneOf " \"#<>" b

/-- What is encoded in a query of a web address. -/
def specialQuery (b : UInt8) : Bool := query b || isOneOf "'" b

/-- What is encoded in a path. -/
def path (b : UInt8) : Bool := fragment b || isOneOf "#?\x7b\x7d" b

/-- What is encoded in the name and the password of a user. -/
def userinfo (b : UInt8) : Bool := path b || isOneOf "/:;=@[\\]^|" b

/-- A hexadecimal digit. -/
def hexDigit (n : Nat) : Char :=
  if n < 10 then Char.ofNat (48 + n) else Char.ofNat (55 + n)

/-- A percent sign and the two digits of a byte. -/
def escape (b : UInt8) : List Char :=
  ['%', hexDigit (b.toNat / 16), hexDigit (b.toNat % 16)]

/-- A byte of a text: as it is, or as an escape if it is in the set. -/
def encodeByte (set : UInt8 → Bool) (b : UInt8) : List Char :=
  if set b then escape b else [Char.ofNat b.toNat]

/-- **The encoding of a text** for a part of an address. -/
def encode (set : UInt8 → Bool) (cs : List Char) : List Char :=
  (cs.flatMap String.utf8EncodeChar).flatMap (encodeByte set)

/-- The value of a hexadecimal digit. -/
def hexValue? (b : UInt8) : Option Nat :=
  let n := b.toNat
  if 48 ≤ n && n ≤ 57 then some (n - 48)
  else if 65 ≤ n && n ≤ 70 then some (n - 55)
  else if 97 ≤ n && n ≤ 102 then some (n - 87)
  else none

/-- The byte of an escape, if the two bytes are digits. -/
def unescape? (high low : UInt8) : Option UInt8 := do
  return (← hexValue? high).toUInt8 * 16 + (← hexValue? low).toUInt8

/-- **The bytes that a text encodes.** A percent sign without two digits
stands for itself. -/
def decode : List UInt8 → List UInt8
  | 0x25 :: high :: low :: rest =>
    match unescape? high low with
    | some b => b :: decode rest
    | none => 0x25 :: decode (high :: low :: rest)
  | b :: rest => b :: decode rest
  | [] => []

/-- What stands for itself in a name or value of a query. -/
def isFormByte (b : UInt8) : Bool :=
  let n := b.toNat
  (48 ≤ n && n ≤ 57) || (65 ≤ n && n ≤ 90) || (97 ≤ n && n ≤ 122) || isOneOf "*-._" b

/-- **A name or value in a query.** A blank is a plus sign. -/
def formEncode (s : String) : String :=
  String.ofList ((s.toList.flatMap String.utf8EncodeChar).flatMap fun b =>
    if b = 0x20 then ['+'] else encodeByte (!isFormByte ·) b)

/-- What must not be encoded is left as it is. -/
theorem encodeByte_of_not_mem {set : UInt8 → Bool} {b : UInt8} (h : set b = false) :
    encodeByte set b = [Char.ofNat b.toNat] := by
  simp [encodeByte, h]

end Liveboard.Percent
