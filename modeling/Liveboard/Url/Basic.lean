import Liveboard.Url.Host

/-!
# Addresses

An address is read as the standard for addresses on the web says: blanks
around it and line breaks in it do not count, a back slash is a slash in a
web address, dots in a path are resolved, and what must not stand in a part
is percent-encoded. An address has one written form (`Url.text`).

Reading goes part by part and from the left: the scheme decides how the rest
is read, the user, the host and the port end where the path begins, and the
path, the query and the fragment cannot fail. The parts that are left over
are passed on as characters, and a fault ends the reading.
-/

namespace Liveboard

/-- The path of an address. -/
inductive UrlPath where
  /-- Segments, each written after a slash. -/
  | segments (names : List String)
  /-- A text that is no list of segments. -/
  | verbatim (text : String)
  deriving DecidableEq, Repr, Inhabited

/-- **An address.** -/
structure Url where
  /-- The scheme, in small letters. -/
  scheme : String
  /-- The name of the user, encoded. -/
  username : String
  /-- The password, encoded; none if it is empty. -/
  password : Option String
  /-- The host. -/
  host : Option Host
  /-- The port, if it is not the one of the scheme. -/
  port : Option Nat
  /-- The path, encoded. -/
  path : UrlPath
  /-- The query, encoded. -/
  query : Option String
  /-- The fragment, encoded. -/
  fragment : Option String
  deriving DecidableEq, Repr, Inhabited

namespace Url

/-! ## Schemes -/

/-- The port of a scheme of the web. -/
def defaultPort? (scheme : String) : Option Nat :=
  [("http", 80), ("https", 443), ("ws", 80), ("wss", 443), ("ftp", 21)].lookup scheme

/-- Whether the addresses of a scheme follow the rules of the web. -/
def isSpecial (scheme : String) : Bool :=
  (defaultPort? scheme).isSome || scheme = "file"

/-- Blanks around a text, and line breaks in it, do not count. -/
def tidy (s : String) : List Char :=
  let cs := s.toList.dropWhile (·.toNat ≤ 0x20)
  let cs := (cs.reverse.dropWhile (·.toNat ≤ 0x20)).reverse
  cs.filter fun c => c ≠ '\t' && c ≠ '\n' && c ≠ '\r'

/-- Whether a character may stand in a scheme. -/
def isSchemeChar (c : Char) : Bool :=
  c.isAlphanum || c = '+' || c = '-' || c = '.'

/-- The scheme of an address and what follows it. -/
def splitScheme? (cs : List Char) : Option (String × List Char) :=
  let name := cs.takeWhile isSchemeChar
  match name, cs.dropWhile isSchemeChar with
  | first :: _, ':' :: rest =>
    if first.isAlpha then some (String.ofList (name.map Char.toLower), rest) else none
  | _, _ => none

/-! ## User, host and port -/

/-- Whether a character ends what stands between the slashes and the
path. -/
def endsAuthority (special : Bool) (c : Char) : Bool :=
  c = '/' || c = '?' || c = '#' || (special && c = '\\')

/-- A list before and after the last of some element. -/
def splitLast? (x : Char) (cs : List Char) : Option (List Char × List Char) :=
  let after := (cs.reverse.takeWhile (· ≠ x)).reverse
  if after.length = cs.length then none
  else some (cs.take (cs.length - after.length - 1), after)

/-- The name and the password of a user. -/
def userOf (cs : List Char) : String × Option String :=
  let encode (cs : List Char) := String.ofList (Percent.encode Percent.userinfo cs)
  let name := cs.takeWhile (· ≠ ':')
  let password := (cs.dropWhile (· ≠ ':')).drop 1
  (encode name, if password.isEmpty then none else some (encode password))

/-- Splits the user off. An address that has nothing but a user before its
path has no host. -/
def splitUser (special : Bool) (cs : List Char) :
    Except UrlFault (String × Option String × List Char) :=
  let authority := cs.takeWhile (!endsAuthority special ·)
  let rest := cs.dropWhile (!endsAuthority special ·)
  match splitLast? '@' authority with
  | none => .ok ("", none, cs)
  | some ([], after) =>
    if after.isEmpty && !rest.isEmpty then .error .emptyHost else .ok ("", none, after ++ rest)
  | some (before, after) =>
    let (username, password) := userOf before
    .ok (username, password, after ++ rest)

/-- Splits the host off. A colon ends it unless it stands in brackets. -/
def splitHost (special : Bool) : Bool → List Char → List Char × List Char
  | _, [] => ([], [])
  | bracketed, c :: cs =>
    if endsAuthority special c || (c = ':' && !bracketed) then ([], c :: cs)
    else
      let (host, rest) := splitHost special
        (if c = '[' then true else if c = ']' then false else bracketed) cs
      (c :: host, rest)

/-- The number of a port. -/
def portOf? (ds : List Char) : Option Nat :=
  (Ipv4.numberIn? 10 ds).bind fun n => if n ≤ 65535 then some n else none

/-- Splits the port off; the one of the scheme is left out. -/
def splitPort (scheme : String) : List Char → Except UrlFault (Option Nat × List Char)
  | ':' :: cs =>
    let ds := cs.takeWhile Char.isDigit
    let rest := cs.dropWhile Char.isDigit
    match portOf? ds with
    | none => .error .badPort
    | some port =>
      if rest.head?.all fun c => endsAuthority true c then
        .ok (if ds.isEmpty || defaultPort? scheme = some port then none else some port, rest)
      else .error .badPort
  | cs => .ok (none, cs)

/-! ## Path, query and fragment -/

/-- Whether a segment stands for the folder it is in. -/
def isSingleDot (segment : List Char) : Bool :=
  [".", "%2e"].contains (String.ofList (segment.map Char.toLower))

/-- Whether a segment stands for the folder above. -/
def isDoubleDot (segment : List Char) : Bool :=
  ["..", ".%2e", "%2e.", "%2e%2e"].contains (String.ofList (segment.map Char.toLower))

/-- **A path with one more segment**, where dots are resolved. The last
segment of a path names a folder if it is dots. -/
def pushSegment (isLast : Bool) (path : List String) (segment : List Char) : List String :=
  if isDoubleDot segment then if isLast then path.dropLast ++ [""] else path.dropLast
  else if isSingleDot segment then if isLast then path ++ [""] else path
  else path ++ [String.ofList (Percent.encode Percent.path segment)]

/-- The parts of a path between slashes. -/
def splitSlashes (special : Bool) (cs : List Char) : List (List Char) :=
  cs.foldr (fun c parts =>
    if c = '/' || (special && c = '\\') then [] :: parts
    else
      match parts with
      | part :: rest => (c :: part) :: rest
      | [] => [[c]]) [[]]

/-- The segments of a path whose first slash was taken off. -/
def segmentsOf (special : Bool) (cs : List Char) : List String :=
  let parts := splitSlashes special cs
  pushSegment true (parts.dropLast.foldl (pushSegment false) []) (parts.getLastD [])

/-- Whether a character ends a path. -/
def endsPath (c : Char) : Bool := c = '?' || c = '#'

/-- The query and the fragment. -/
def splitTail (special : Bool) (cs : List Char) : Option String × Option String :=
  let fragmentOf (cs : List Char) : Option String :=
    match cs with
    | '#' :: rest => some (String.ofList (Percent.encode Percent.fragment rest))
    | _ => none
  match cs with
  | '?' :: rest =>
    let set := if special then Percent.specialQuery else Percent.query
    (some (String.ofList (Percent.encode set (rest.takeWhile (· ≠ '#')))),
      fragmentOf (rest.dropWhile (· ≠ '#')))
  | cs => (none, fragmentOf cs)

/-! ## Addresses -/

/-- An address whose path begins at `cs`. -/
def withRest (u : Url) (special : Bool) (cs : List Char) : Url :=
  let path := cs.takeWhile (!endsPath ·)
  let (query, fragment) := splitTail special (cs.dropWhile (!endsPath ·))
  let segments : List String :=
    match path with
    | [] => if special then segmentsOf special [] else []
    | c :: rest =>
      if c = '/' || (special && c = '\\') then segmentsOf special rest
      else segmentsOf special path
  { u with path := .segments segments, query := query, fragment := fragment }

/-- An address without user and host. -/
def bare (scheme : String) : Url where
  scheme := scheme
  username := ""
  password := none
  host := none
  port := none
  path := .segments []
  query := none
  fragment := none

/-- **An address from the user on.** A web address needs a host, and so
does one with a user or a port. -/
def parseAuthority (scheme : String) (cs : List Char) : Except UrlFault Url := do
  let special := isSpecial scheme
  let (username, password, cs) ← splitUser special cs
  let (hostText, cs) := splitHost special false cs
  if hostText.isEmpty && special then throw .emptyHost
  let host ← if special then Host.parse hostText else Host.parseVerbatim hostText
  let isEmpty := hostText.isEmpty
  if isEmpty && cs.head? = some ':' then throw .emptyHost
  let (port, cs) ← splitPort scheme cs
  if isEmpty && (username ≠ "" || password.isSome) then throw .emptyHost
  let u : Url := { bare scheme with
    username := username
    password := password
    host := if isEmpty then none else some host
    port := port }
  return u.withRest special cs

/-- Whether the host of a file is the letter of a drive. -/
def isDrive : List Char → Bool
  | [letter, mark] => letter.isAlpha && (mark = ':' || mark = '|')
  | _ => false

/-- The address of a file. -/
def parseFile (cs : List Char) : Except UrlFault Url :=
  match cs with
  | a :: b :: rest =>
    if (a = '/' || a = '\\') && (b = '/' || b = '\\') then
      let name := rest.takeWhile (!endsAuthority true ·)
      let after := rest.dropWhile (!endsAuthority true ·)
      if name.isEmpty || isDrive name then .ok ((bare "file").withRest true rest)
      else do
        let host ← Host.parse name
        let host := if host = .domain "localhost" then none else some host
        return { bare "file" with host := host }.withRest true after
    else .ok ((bare "file").withRest true cs)
  | _ => .ok ((bare "file").withRest true cs)

/-- An address outside the web without a host. -/
def parseBare (scheme : String) (cs : List Char) : Url :=
  match cs with
  | '/' :: _ => (bare scheme).withRest false cs
  | _ =>
    let (query, fragment) := splitTail false (cs.dropWhile (!endsPath ·))
    { bare scheme with
      path := .verbatim (String.ofList
        (Percent.encode Percent.controls (cs.takeWhile (!endsPath ·))))
      query := query
      fragment := fragment }

/-- **The address of a text.** -/
def parse (s : String) : Except UrlFault Url :=
  match splitScheme? (tidy s) with
  | none => .error .relative
  | some (scheme, cs) =>
    if scheme = "file" then parseFile cs
    else if isSpecial scheme then
      parseAuthority scheme (cs.dropWhile fun c => c = '/' || c = '\\')
    else
      match cs with
      | '/' :: '/' :: rest => parseAuthority scheme rest
      | _ => .ok (parseBare scheme cs)

/-! ## The written form -/

/-- **The path as it is written.** -/
def pathText (u : Url) : String :=
  match u.path with
  | .segments names => String.join (names.map ("/" ++ ·))
  | .verbatim text => text

/-- The user as it is written. -/
def userText (u : Url) : String :=
  match u.username, u.password with
  | "", none => ""
  | name, none => name ++ "@"
  | name, some password => name ++ ":" ++ password ++ "@"

/-- The host and the port as they are written. -/
def hostText (u : Url) : String :=
  match u.host with
  | some host => host.text ++ (match u.port with
    | some port => s!":{port}"
    | none => "")
  | none => ""

/-- The query as it is written. -/
def queryText (u : Url) : String :=
  match u.query with
  | some query => "?" ++ query
  | none => ""

/-- The fragment as it is written. -/
def fragmentText (u : Url) : String :=
  match u.fragment with
  | some fragment => "#" ++ fragment
  | none => ""

/-- **The written form of an address.** -/
def text (u : Url) : String :=
  u.scheme ++ ":"
    ++ (if u.host.isSome || u.scheme = "file" then "//" ++ u.userText ++ u.hostText else "")
    ++ u.pathText ++ u.queryText ++ u.fragmentText

/-! ## Addresses made from others -/

/-- The segments of a path without the empty ones at its end. -/
def trimSegments (names : List String) : List String :=
  (names.reverse.dropWhile (·.isEmpty)).reverse

/-- **An address one segment further**: slashes at the end of the path do
not count. -/
def appendSegment (u : Url) (name : String) : Url :=
  match u.path with
  | .segments names => { u with path := .segments (trimSegments names ++ [name]) }
  | .verbatim _ => u

/-- An address under another scheme. -/
def withScheme (u : Url) (scheme : String) : Url :=
  { u with
    scheme := scheme
    port := if u.port = defaultPort? scheme then none else u.port }

end Url

end Liveboard
