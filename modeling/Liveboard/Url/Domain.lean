import Liveboard.Text.Utf8
import Liveboard.Url.Percent
import Liveboard.Url.Punycode

/-!
# Domain names

A domain name in an address is compared in one form, `Domain.toAscii?`: in
small letters, without invisible characters, the wide forms of ASCII as
ASCII, and each label that is not ASCII in its ASCII form. Some characters
make a name invalid.

The full mapping of characters is a table of several thousand ranges that
grows with every edition of the character set. `Domain.fold` has the part of
it that names are usually written in: the letters of the Latin, Greek,
Cyrillic, Armenian and Deseret scripts, the wide forms of ASCII, and some
twenty characters with forms of their own. Any other character stands for
itself, so digits in circles and most forms for compatibility are not mapped.
Nor is a letter put together with the marks behind it, so one name written in
two ways stays two names. Joiners are refused everywhere, although between
certain letters they are allowed.

Names outside of this part may so be refused, or given another ASCII form,
where the full mapping takes them. Nothing that is proved of addresses
depends on it: whatever the form of a host is, it is the same on both sides.
-/

namespace Liveboard.Domain

/-- What a domain name must not hold. -/
def isForbidden (c : Char) : Bool :=
  c.toNat ≤ 0x20 || c.toNat = 0x7F || "%#/:<>?@[\\]^|".toList.contains c

/-- Ranges of code points whose large letters lie a fixed distance before
the small ones: first, last, distance. -/
def shifted : List (Nat × Nat × Nat) := [
  (0x41, 0x5A, 32), (0xC0, 0xD6, 32), (0xD8, 0xDE, 32), (0x386, 0x386, 38), (0x388, 0x38A, 37),
  (0x38C, 0x38C, 64), (0x38E, 0x38F, 63), (0x391, 0x3A1, 32), (0x3A3, 0x3AB, 32),
  (0x400, 0x40F, 80), (0x410, 0x42F, 32), (0x531, 0x556, 48), (0x10400, 0x10427, 40)]

/-- Ranges in which a large letter at an even place comes before its small
one. -/
def evenPairs : List (Nat × Nat) := [
  (0x100, 0x12F), (0x132, 0x137), (0x14A, 0x177), (0x1DE, 0x1EF), (0x1F8, 0x21F), (0x222, 0x233),
  (0x3D8, 0x3EF), (0x460, 0x481), (0x48A, 0x4BF), (0x4D0, 0x52F), (0x1E00, 0x1E95),
  (0x1EA0, 0x1EFF)]

/-- Ranges in which a large letter at an odd place comes before its small
one. -/
def oddPairs : List (Nat × Nat) := [(0x139, 0x148), (0x179, 0x17E), (0x1CD, 0x1DC), (0x4C1, 0x4CE)]

/-- Characters with a form of their own. -/
def special : List (Nat × List Nat) := [
  (0xA0, [0x20]), (0xAA, [0x61]), (0xB2, [0x32]), (0xB3, [0x33]), (0xB5, [0x3BC]), (0xB9, [0x31]),
  (0xBA, [0x6F]), (0x130, [0x69, 0x307]), (0x178, [0xFF]), (0x17F, [0x73]), (0x2126, [0x3C9]),
  (0x212A, [0x6B]), (0x212B, [0xE5]), (0x2122, [0x74, 0x6D]), (0x1E9E, [0x73, 0x73]),
  (0x3000, [0x20]), (0x3002, [0x2E]), (0xFF61, [0x2E]), (0xFB00, [0x66, 0x66]),
  (0xFB01, [0x66, 0x69]), (0xFB02, [0x66, 0x6C]), (0x24EA, [0x30])]

/-- Ranges of characters that are left out. -/
def ignored : List (Nat × Nat) := [
  (0xAD, 0xAD), (0x34F, 0x34F), (0x180B, 0x180F), (0x200B, 0x200B), (0x2060, 0x2060),
  (0x2064, 0x2064), (0xFE00, 0xFE0F), (0xFEFF, 0xFEFF), (0xE0100, 0xE01EF)]

/-- Ranges of characters that make a name invalid. -/
def invalid : List (Nat × Nat) := [
  (0x80, 0x9F), (0x200C, 0x200F), (0x2028, 0x202E), (0x2061, 0x2063), (0x2066, 0x206F),
  (0x2FF0, 0x2FFB), (0xE000, 0xF8FF), (0xFDD0, 0xFDEF), (0xFFF9, 0xFFFF), (0x1FFFE, 0x1FFFF),
  (0xE0000, 0xE00FF), (0xF0000, 0x10FFFF)]

/-- Whether a code point lies in one of the ranges. -/
def inRanges (n : Nat) (ranges : List (Nat × Nat)) : Bool :=
  ranges.any fun (first, last) => first ≤ n && n ≤ last

/-- **The small form of a character**, if it is valid; some are left out. A
character of which the tables above say nothing stands for itself, although
the full mapping has forms for more of them. -/
def fold (c : Char) : Option (List Char) :=
  let n := c.toNat
  if inRanges n invalid then none
  else if inRanges n ignored then some []
  else if 0x2000 ≤ n && n ≤ 0x200A then some [' ']
  else if 0xFF01 ≤ n && n ≤ 0xFF5E then
    some [(Char.ofNat (n - 0xFEE0)).toLower]
  else
    match special.lookup n with
    | some form => some (form.map Char.ofNat)
    | none =>
      match shifted.find? fun (first, last, _) => first ≤ n && n ≤ last with
      | some (_, _, distance) => some [Char.ofNat (n + distance)]
      | none =>
        if inRanges n evenPairs && n % 2 = 0 || inRanges n oddPairs && n % 2 = 1 then
          some [Char.ofNat (n + 1)]
        else some [c]

/-- Whether a character only modifies the one before it. -/
def isMark (c : Char) : Bool :=
  inRanges c.toNat [(0x300, 0x36F), (0x483, 0x489), (0x591, 0x5BD), (0x610, 0x61A), (0x64B, 0x65F),
    (0x1AB0, 0x1AFF), (0x1DC0, 0x1DFF), (0x20D0, 0x20FF), (0xFE20, 0xFE2F)]

/-- Whether all characters are ASCII. -/
def isAscii (cs : List Char) : Bool :=
  cs.all fun c => c.toNat < 128

/-- The ASCII form of a label in small letters. A label that claims to be
in ASCII form must be the form of something. A label is taken as it is
written: its letters and marks are not put together first, and what joins
letters is not looked at, since `fold` has refused all joiners. -/
def labelToAscii? (label : List Char) : Option (List Char) :=
  if isAscii label then
    match label with
    | 'x' :: 'n' :: '-' :: '-' :: rest =>
      match Punycode.decode? rest with
      | some decoded =>
        if isAscii decoded || Punycode.encode decoded ≠ rest
            || decoded.mapM fold ≠ some (decoded.map ([·])) then none
        else some label
      | none => none
    | _ => some label
  else if label.head?.any isMark then none
  else some ("xn--".toList ++ Punycode.encode label)

/-- The parts of a text between dots. -/
def splitDots (cs : List Char) : List (List Char) :=
  cs.foldr (fun c parts =>
    match c, parts with
    | '.', parts => [] :: parts
    | c, part :: rest => (c :: part) :: rest
    | c, [] => [[c]]) [[]]

/-- Parts with dots between them. -/
def joinDots : List (List Char) → List Char
  | [] => []
  | [part] => part
  | part :: rest => part ++ '.' :: joinDots rest

/-- **The form in which a name is compared**, if the name is valid. -/
def toAscii? (bytes : List UInt8) : Option String :=
  match Utf8.decode bytes with
  | .error _ => none
  | .ok name => do
    let folded ← name.toList.mapM fold
    let labels ← (splitDots folded.flatten).mapM labelToAscii?
    let ascii := joinDots labels
    if ascii.any isForbidden then none else some (String.ofList ascii)

end Liveboard.Domain
