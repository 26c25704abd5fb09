import Liveboard.Decimal.Binary
import Liveboard.Url.Domain

/-!
# Hosts

The host of an address is a domain name, an address of version 4 or 6, or,
outside the web, a text of its own (`Host.parseVerbatim`). A name whose last
part is a number is always an address of version 4, which has many spellings
and one written form; an address of version 6 is written with its longest run
of zeros left out.
-/

namespace Liveboard

/-- **What can be wrong with an address.** -/
inductive UrlFault where
  /-- It has no scheme. -/
  | relative
  /-- It has no host where it needs one. -/
  | emptyHost
  /-- The port is no number up to 65535. -/
  | badPort
  /-- The host ends like an address of version 4, and is none. -/
  | badIpv4
  /-- What stands in brackets is no address of version 6. -/
  | badIpv6
  /-- The host is no valid domain name. -/
  | badDomain
  /-- A host outside the web holds a character that it must not. -/
  | badHostCharacter
  deriving DecidableEq, Repr, Inhabited

/-- The wording of a fault. -/
def UrlFault.message : UrlFault → String
  | .relative => "relative URL without a base"
  | .emptyHost => "empty host"
  | .badPort => "invalid port number"
  | .badIpv4 => "invalid IPv4 address"
  | .badIpv6 => "invalid IPv6 address"
  | .badDomain => "invalid international domain name"
  | .badHostCharacter => "invalid domain character"

/-- **The host of an address.** -/
inductive Host where
  /-- A domain name. -/
  | domain (name : String)
  /-- An address of version 4. -/
  | ipv4 (address : Nat)
  /-- An address of version 6, as eight groups of 16 bits. -/
  | ipv6 (groups : List Nat)
  deriving DecidableEq, Repr, Inhabited

/-! ## Version 4 -/

namespace Ipv4

/-- The value of a digit up to base 16. -/
def digitValue? (base : Nat) (c : Char) : Option Nat :=
  if c.toNat < 128 then
    (Percent.hexValue? c.toNat.toUInt8).bind fun d => if d < base then some d else none
  else none

/-- A number in a base; none if there is another character. -/
def numberIn? (base : Nat) (cs : List Char) : Option Nat :=
  cs.foldlM (fun n c => (digitValue? base c).map (n * base + ·)) 0

/-- A number in decimal, octal or hexadecimal notation. -/
def number? : List Char → Option Nat
  | [] => none
  | '0' :: 'x' :: rest => numberIn? 16 rest
  | '0' :: 'X' :: rest => numberIn? 16 rest
  | '0' :: d :: rest => numberIn? 8 (d :: rest)
  | cs => numberIn? 10 cs

/-- The parts of a name; an empty last part does not count. -/
def parts (name : String) : List (List Char) :=
  match (Domain.splitDots name.toList).reverse with
  | [] :: last :: rest => (last :: rest).reverse
  | ps => ps.reverse

/-- Whether the last part of a name is a number. -/
def isMeant (name : String) : Bool :=
  match (parts name).getLast? with
  | some last => (!last.isEmpty && last.all Char.isDigit) || (number? last).isSome
  | none => false

/-- **The address of a name.** Each number but the last is one byte, and the
last fills what remains. -/
def parse? (name : String) : Option Nat := do
  let ps := parts name
  if 4 < ps.length then none
  else
    let numbers ← ps.mapM number?
    let last ← numbers.getLast?
    let bytes := numbers.dropLast
    if bytes.any (255 < ·) || 256 ^ (4 - bytes.length) ≤ last then none
    else
      return bytes.zipIdx.foldl (fun sum (n, i) => sum + n * 256 ^ (3 - i)) last

/-- The written form of an address. -/
def text (address : Nat) : String :=
  ".".intercalate
    ([3, 2, 1, 0].map fun i => toString (address / 256 ^ i % 256))

end Ipv4

/-! ## Version 6 -/

namespace Ipv6

/-- The value of up to four hexadecimal digits and what follows them. -/
def group (cs : List Char) : Nat × List Char :=
  let ds := (cs.take 4).takeWhile fun c => (Ipv4.digitValue? 16 c).isSome
  ((Ipv4.numberIn? 16 ds).getD 0, cs.drop ds.length)

/-- A byte in decimal notation without leading zeros, and what follows. -/
def byte? (cs : List Char) : Option (Nat × List Char) :=
  let ds := cs.takeWhile Char.isDigit
  match ds with
  | [] => none
  | '0' :: _ :: _ => none
  | _ => (Ipv4.numberIn? 10 ds).bind fun n =>
    if n ≤ 255 then some (n, cs.drop ds.length) else none

/-- The last two groups in the notation of version 4. -/
def tail? (cs : List Char) : Option (List Nat) := do
  let (a, rest) ← byte? cs
  let (b, rest) ← dotted rest
  let (c, rest) ← dotted rest
  let (d, rest) ← dotted rest
  if rest.isEmpty then return [a * 256 + b, c * 256 + d] else none
where
  dotted : List Char → Option (Nat × List Char)
    | '.' :: rest => byte? rest
    | _ => none

/-- The groups read so far and, if a run of zeros was left out, how many
groups stand before it. -/
structure Partial where
  /-- The groups so far. -/
  groups : List Nat
  /-- The groups before the run of zeros. -/
  gap : Option Nat

/-- The groups used up; a run of zeros stands for at least one. -/
def Partial.used (p : Partial) : Nat :=
  p.groups.length + (if p.gap.isSome then 1 else 0)

/-- Reads groups; `fuel` bounds their number. -/
def readGroups? : Nat → Partial → List Char → Option Partial
  | _, p, [] => some p
  | 0, _, _ => none
  | fuel + 1, p, cs =>
    if 8 ≤ p.used then none
    else
      match cs with
      | ':' :: rest =>
        if p.gap.isSome then none
        else readGroups? fuel { p with gap := some p.groups.length } rest
      | _ =>
        let (value, rest) := group cs
        match rest with
        | '.' :: _ =>
          if rest.length = cs.length || 6 < p.used then none
          else (tail? cs).map fun last => { p with groups := p.groups ++ last }
        | ':' :: [] => none
        | ':' :: rest => readGroups? fuel { p with groups := p.groups ++ [value] } rest
        | [] => some { p with groups := p.groups ++ [value] }
        | _ => none

/-- **The groups of an address.** -/
def parse? (cs : List Char) : Option (List Nat) := do
  let p ← match cs with
    | ':' :: ':' :: rest => readGroups? 16 ⟨[], some 0⟩ rest
    | ':' :: _ => none
    | _ => readGroups? 16 ⟨[], none⟩ cs
  match p.gap with
  | some n =>
    some (p.groups.take n ++ List.replicate (8 - p.groups.length) 0 ++ p.groups.drop n)
  | none => if p.groups.length = 8 then some p.groups else none

/-- The number of zeros at the front. -/
def zeros (groups : List Nat) : Nat :=
  (groups.takeWhile (· = 0)).length

/-- The first longest run of zeros: where it begins and how long it is. -/
def longestRun (groups : List Nat) : Nat × Nat :=
  (List.range groups.length).foldl (fun (start, length) i =>
    let n := zeros (groups.drop i)
    if length < n then (i, n) else (start, length)) (0, 0)

/-- A group in hexadecimal notation. -/
def groupText (n : Nat) : String :=
  String.ofList (Nat.toDigits 16 n)

/-- **The written form of an address**: a run of at least two zeros is left
out. -/
def text (groups : List Nat) : String :=
  let (start, length) := longestRun groups
  let write (gs : List Nat) : String := ":".intercalate (gs.map groupText)
  if length < 2 then write groups
  else write (groups.take start) ++ "::" ++ write (groups.drop (start + length))

end Ipv6

/-! ## All hosts -/

namespace Host

/-- What stands between brackets, if a text begins with one. -/
def bracketed (cs : List Char) : Option (Except UrlFault Host) :=
  match cs with
  | '[' :: rest =>
    if rest.getLast? = some ']' then
      match Ipv6.parse? rest.dropLast with
      | some groups => some (.ok (.ipv6 groups))
      | none => some (.error .badIpv6)
    else some (.error .badIpv6)
  | _ => none

/-- **The host of a web address.** -/
def parse (cs : List Char) : Except UrlFault Host :=
  match bracketed cs with
  | some result => result
  | none =>
    match Domain.toAscii? (Percent.decode (cs.flatMap String.utf8EncodeChar)) with
    | none => .error .badDomain
    | some name =>
      if name.isEmpty then .error .emptyHost
      else if Ipv4.isMeant name then
        match Ipv4.parse? name with
        | some address => .ok (.ipv4 address)
        | none => .error .badIpv4
      else .ok (.domain name)

/-- What a host outside the web must not hold. -/
def isForbidden (c : Char) : Bool :=
  "\x00\t\n\r #/:<>?@[\\]^|".toList.contains c

/-- **The host of an address outside the web**: a text of its own. -/
def parseVerbatim (cs : List Char) : Except UrlFault Host :=
  match bracketed cs with
  | some result => result
  | none =>
    if cs.any isForbidden then .error .badHostCharacter
    else .ok (.domain (String.ofList (Percent.encode Percent.controls cs)))

/-- The written form of a host. -/
def text : Host → String
  | .domain name => name
  | .ipv4 address => Ipv4.text address
  | .ipv6 groups => "[" ++ Ipv6.text groups ++ "]"

end Host

end Liveboard
