import Liveboard.Channel.Driver
import Liveboard.Text.Utf8

/-!
# The push channel over a web socket

To open a connection is to ask an address for an upgrade, with the token in
a header. Addresses are read more strictly here than for the requests of
the backend: `SocketAddress.parse` encodes and folds nothing, and a
character that may not stand in an address makes it invalid.

No connection is made here. `SocketRequest.make` is the request or why
there is none, `SocketRequest.attempt` is what an answer to it means, and
`SocketMessage.yield` what a message of the connection brings to the
driver.
-/

namespace Liveboard

/-- What can be wrong with the address of a socket. -/
inductive SocketFault where
  /-- It is empty. -/
  | empty
  /-- It is too long. -/
  | tooLong
  /-- It holds a character that it must not. -/
  | badCharacter
  /-- Its host and port are malformed. -/
  | badAuthority
  /-- Its parts do not make up an address. -/
  | badFormat
  /-- Its scheme is too long. -/
  | schemeTooLong
  deriving DecidableEq, Repr

/-- The wording of a fault. -/
def SocketFault.message : SocketFault → String
  | .empty => "empty string"
  | .tooLong => "uri too long"
  | .badCharacter => "invalid uri character"
  | .badAuthority => "invalid authority"
  | .badFormat => "invalid format"
  | .schemeTooLong => "scheme too long"

/-- **What the address of a socket says.** -/
structure SocketAddress where
  /-- The scheme, as it is written. -/
  scheme : Option String
  /-- User, host and port, as they are written. -/
  authority : Option String
  /-- The path and the query. -/
  target : String
  deriving DecidableEq, Repr

namespace SocketAddress

/-- Whether a character may stand in a scheme. -/
def isSchemeChar (c : Char) : Bool :=
  c.isAlphanum || c = '+' || c = '-' || c = '.'

/-- Whether a character may stand between the slashes and the path. -/
def isAuthorityChar (c : Char) : Bool :=
  c.isAlphanum || "!$&'()*+,-.:;=@[]_~".toList.contains c

/-- Whether a character may stand in a path. -/
def isPathChar (c : Char) : Bool :=
  let n := c.toNat
  n = 0x21 || n = 0x22 || (0x24 ≤ n && n ≤ 0x3B) || n = 0x3D || (0x40 ≤ n && n ≤ 0x5F)
    || (0x61 ≤ n && n ≠ 0x7F)

/-- Whether a character may stand in a query. -/
def isQueryChar (c : Char) : Bool :=
  let n := c.toNat
  n = 0x21 || (0x24 ≤ n && n ≤ 0x3B) || n = 0x3D || (0x3F ≤ n && n ≠ 0x7F)

/-- The longest address. -/
def maxLength : Nat := 65534

/-- The longest scheme. -/
def maxSchemeLength : Nat := 64

/-- The scheme of an address and what follows its slashes. -/
def splitScheme (cs : List Char) : Except SocketFault (Option String × List Char) :=
  let name := cs.takeWhile isSchemeChar
  match cs.drop name.length with
  | ':' :: '/' :: '/' :: rest =>
    if maxSchemeLength < name.length then .error .schemeTooLong
    else .ok (some (String.ofList name), rest)
  | _ => .ok (none, cs)

/-- What is known of host and port while they are read. -/
structure Scan where
  /-- The colons since the last user or bracket. -/
  colons : Nat
  /-- Whether a bracket was opened. -/
  opened : Bool
  /-- Whether a bracket was closed. -/
  closed : Bool
  /-- Whether a percent sign came since the last user or bracket. -/
  percent : Bool
  /-- Whether the last character ended the user. -/
  afterUser : Bool

/-- Nothing is known at the start. -/
def Scan.start : Scan where
  colons := 0
  opened := false
  closed := false
  percent := false
  afterUser := false

/-- One more character of host and port. -/
def Scan.step (s : Scan) (c : Char) : Except SocketFault Scan :=
  let s' := { s with afterUser := false }
  if c = ':' then
    if 8 ≤ s.colons then .error .badAuthority else .ok { s' with colons := s.colons + 1 }
  else if c = '[' then
    if s.percent || s.opened then .error .badAuthority else .ok { s' with opened := true }
  else if c = ']' then
    if !s.opened || s.closed then .error .badAuthority
    else .ok { s' with closed := true, colons := 0, percent := false }
  else if c = '@' then .ok { s' with colons := 0, percent := false, afterUser := true }
  else if c = '%' then .ok { s' with percent := true }
  else if isAuthorityChar c then .ok s'
  else .error .badCharacter

/-- Splits host and port from the path. -/
def splitAuthority (cs : List Char) : Except SocketFault (List Char × List Char) := do
  let ends (c : Char) : Bool := c = '/' || c = '?' || c = '#'
  let authority := cs.takeWhile (!ends ·)
  let s ← authority.foldlM Scan.step .start
  if s.opened ≠ s.closed || 1 < s.colons || s.afterUser || s.percent then throw .badAuthority
  return (authority, cs.drop authority.length)

/-- The path and the query of an address, without a fragment. -/
def targetOf (cs : List Char) : Except SocketFault String :=
  let kept := cs.takeWhile (· ≠ '#')
  let path := kept.takeWhile (· ≠ '?')
  let query := (kept.dropWhile (· ≠ '?')).drop 1
  if path.all isPathChar && query.all isQueryChar then .ok (String.ofList kept)
  else .error .badCharacter

/-- **What an address says.** -/
def parse (s : String) : Except SocketFault SocketAddress := do
  let cs := s.toList
  if maxLength < s.utf8ByteSize then throw .tooLong
  match cs with
  | [] => throw .empty
  | '/' :: _ => return ⟨none, none, ← targetOf cs⟩
  | ['*'] => return ⟨none, none, "*"⟩
  | _ =>
    let (scheme, rest) ← splitScheme cs
    let (authority, path) ← splitAuthority rest
    match scheme with
    | none =>
      if path.isEmpty then return ⟨none, some (String.ofList authority), ""⟩ else throw .badFormat
    | some _ =>
      if rest.isEmpty then throw .empty
      if authority.isEmpty then throw .badFormat
      return ⟨scheme, some (String.ofList authority), ← targetOf path⟩

/-- The host and port, without a user. -/
def hostPort (a : SocketAddress) : Option String :=
  a.authority.map fun s =>
    let cs := s.toList
    if cs.contains '@' then String.ofList ((cs.dropWhile (· ≠ '@')).drop 1) else s

/-- The port that is written. -/
def writtenPort? (a : SocketAddress) : Option Nat :=
  a.authority.bind fun s =>
    let digits := (s.toList.reverse.takeWhile (· ≠ ':')).reverse
    if digits.length = s.length then none
    else
      match (String.ofList digits).toNat? with
      | some n => if digits.all Char.isDigit && n ≤ 65535 then some n else none
      | none => none

/-- **The port to connect to.** -/
def port? (a : SocketAddress) : Option Nat :=
  match a.writtenPort? with
  | some n => some n
  | none =>
    match a.scheme with
    | some "ws" => some 80
    | some "wss" => some 443
    | _ => none

end SocketAddress

/-- **The request for an upgrade.** -/
structure SocketRequest where
  /-- The address. -/
  address : SocketAddress
  /-- The header that carries the token. -/
  authorization : Option String
  deriving DecidableEq, Repr

/-- **What comes of a request for an upgrade.** -/
inductive SocketOutcome where
  /-- The connection is open. -/
  | upgraded
  /-- The server answered with a status instead. -/
  | rejected (status : Nat)
  /-- The server was not reached. -/
  | failed (reason : String)

namespace SocketRequest

/-- Whether a text may stand in a header. -/
def isHeaderText (s : String) : Bool :=
  s.toList.all fun c => (0x20 ≤ c.toNat && c.toNat ≠ 0x7F) || c = '\t'

/-- **The request for an upgrade**, or why there is none. An empty token is
not sent. -/
def make (url token : String) : Except ChannelError SocketRequest :=
  match SocketAddress.parse url with
  | .error fault =>
    .error (.transport ("invalid channel url: HTTP format error: " ++ fault.message))
  | .ok address =>
    match address.hostPort with
    | none => .error (.transport "invalid channel url: URL error: No host name in the URL")
    | some "" => .error (.transport "invalid channel url: URL error: URL contains empty host name")
    | some _ =>
      if token = "" then .ok ⟨address, none⟩
      else if isHeaderText token then .ok ⟨address, some ("Bearer " ++ token)⟩
      else .error (.auth "token is not a valid header value")

/-- The names of statuses. -/
def statusNames : List (Nat × String) := [
  (100, "Continue"), (200, "OK"), (201, "Created"), (202, "Accepted"), (204, "No Content"),
  (301, "Moved Permanently"), (302, "Found"), (303, "See Other"), (304, "Not Modified"),
  (307, "Temporary Redirect"), (308, "Permanent Redirect"), (400, "Bad Request"),
  (401, "Unauthorized"), (402, "Payment Required"), (403, "Forbidden"), (404, "Not Found"),
  (405, "Method Not Allowed"), (406, "Not Acceptable"), (408, "Request Timeout"),
  (409, "Conflict"), (410, "Gone"), (411, "Length Required"), (412, "Precondition Failed"),
  (413, "Payload Too Large"), (414, "URI Too Long"), (415, "Unsupported Media Type"),
  (418, "I'm a teapot"), (422, "Unprocessable Entity"), (423, "Locked"), (425, "Too Early"),
  (426, "Upgrade Required"), (428, "Precondition Required"), (429, "Too Many Requests"),
  (431, "Request Header Fields Too Large"), (451, "Unavailable For Legal Reasons"),
  (500, "Internal Server Error"), (501, "Not Implemented"), (502, "Bad Gateway"),
  (503, "Service Unavailable"), (504, "Gateway Timeout"), (505, "HTTP Version Not Supported")]

/-- A status with its name. -/
def statusText (status : Nat) : String :=
  toString status ++ " " ++ (statusNames.lookup status).getD "<unknown status code>"

/-- **What the attempt to open a connection yields.** Only a rejection of
the token is final. -/
def attempt (r : SocketRequest) : SocketOutcome → Except ChannelError Unit
  | .upgraded => if r.address.port?.isSome then .ok () else .error unsupported
  | .rejected status =>
    if status = 401 || status = 403 then
      .error (.auth ("upgrade rejected with " ++ statusText status))
    else .error (.transport ("upgrade failed with " ++ statusText status))
  | .failed reason =>
    if r.address.port?.isSome then .error (.transport reason) else .error unsupported
where
  /-- The error of an address that names no port and has no scheme for
  sockets. -/
  unsupported : ChannelError := .transport "URL error: URL scheme not supported"

end SocketRequest

/-- A message of a connection. -/
inductive SocketMessage where
  /-- A text. -/
  | text (s : String)
  /-- Bytes. -/
  | binary (bytes : List UInt8)
  /-- A sign of life; it brings nothing. -/
  | control
  /-- The end of the connection. -/
  | close

/-- **What a message brings**: an item, nothing, or the end. -/
inductive SocketYield where
  /-- The next item. -/
  | item (item : StreamItem)
  /-- Nothing. -/
  | nothing
  /-- The end. -/
  | ended

/-- What a message of a connection brings. Bytes are taken as a text if
they are one. -/
def SocketMessage.yield : SocketMessage → SocketYield
  | .text s => .item (.text s)
  | .binary bytes =>
    match Utf8.decode bytes with
    | .ok s => .item (.text s)
    | .error fault => .item (.fault (.decode ("binary frame: " ++ fault.message)))
  | .control => .nothing
  | .close => .ended

end Liveboard
