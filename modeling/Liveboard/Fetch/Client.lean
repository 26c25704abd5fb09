import Liveboard.Fetch.Error
import Liveboard.Metrics.View
import Liveboard.Settings.Basic
import Liveboard.Url.Basic
import Liveboard.Json.Writing
import Liveboard.Wire.Text

/-!
# The client of the backend

The client turns calls into HTTP requests and what comes of a request into
the result of the call. It sends nothing itself: an exchange is a request
with its `Outcome`, whoever made it.

An address is made as text first: the configured base without its last
slashes, then the path of the call, then the query. Only the whole is read
as an address (`HttpClient.request`). What stands in a path or a base is
therefore read by the rules for addresses together with everything around
it, and not on its own.
-/

namespace Liveboard

/-- The methods in use. -/
inductive HttpMethod where
  /-- Read something. -/
  | get
  /-- Replace something. -/
  | put
  /-- Remove something. -/
  | delete
  deriving DecidableEq, Repr, Inhabited

/-- The name of a method. -/
def HttpMethod.name : HttpMethod → String
  | .get => "GET"
  | .put => "PUT"
  | .delete => "DELETE"

/-- **A request.** -/
structure HttpRequest where
  /-- The method. -/
  method : HttpMethod
  /-- The address, without user and password. -/
  url : Url
  /-- The headers, in the order in which they are set. -/
  headers : List (String × String)
  /-- The body, if there is one. -/
  body : Option String

/-- **What has come of a request.** -/
inductive Outcome where
  /-- No answer was had. -/
  | unanswered
  /-- An answer with a status and a body. -/
  | answered (status : Nat) (body : List UInt8)

/-- **The client of a backend.** -/
structure HttpClient where
  /-- The address that paths are appended to, without slashes at its
  end. -/
  base : String
  /-- The token sent with each request. -/
  token : Option String
  deriving DecidableEq, Repr, Inhabited

namespace HttpClient

/-- How the client calls itself. -/
def userAgent : String := "Axon-Dash/0.1.0"

/-- A text without the slashes at its end. -/
def trimSlashes (s : String) : String :=
  String.ofList (s.toList.reverse.dropWhile (· = '/')).reverse

/-- **The client for an address and a token.** An empty token is none. -/
def make (base : String) (token : Option String) : HttpClient where
  base := trimSlashes base
  token := token.filter (· ≠ "")

/-- The client that the settings ask for. -/
def ofSettings (s : ClientSettings) : HttpClient :=
  make s.baseUrl s.token

/-- Whether a text may stand in a header. -/
def isHeaderText (s : String) : Bool :=
  s.toList.all fun c => (0x20 ≤ c.toNat && c.toNat ≠ 0x7F) || c = '\t'

/-- The address of a path. -/
def addressText (c : HttpClient) (path : String) : String :=
  c.base ++ "/" ++ String.ofList (path.toList.dropWhile (· = '/'))

/-- Adds names and values to the query of an address. A query that stays
empty is left out. -/
def addQuery (u : Url) (pairs : List (String × String)) : Url :=
  let written := pairs.map fun (k, v) => Percent.formEncode k ++ "=" ++ Percent.formEncode v
  let parts := (match u.query with
    | some "" | none => []
    | some q => [q]) ++ written
  { u with query := if parts.isEmpty then none else some ("&".intercalate parts) }

/-- The digits of base 64. -/
def base64Digit (n : Nat) : Char :=
  if n < 26 then Char.ofNat (65 + n)
  else if n < 52 then Char.ofNat (71 + n)
  else if n < 62 then Char.ofNat (n - 4)
  else if n = 62 then '+' else '/'

/-- Bytes in base 64. -/
def base64 : List UInt8 → List Char
  | [] => []
  | [a] =>
    let n := a.toNat * 16
    [base64Digit (n / 64), base64Digit (n % 64), '=', '=']
  | [a, b] =>
    let n := (a.toNat * 256 + b.toNat) * 4
    [base64Digit (n / 4096), base64Digit (n / 64 % 64), base64Digit (n % 64), '=']
  | a :: b :: c :: rest =>
    let n := (a.toNat * 256 + b.toNat) * 256 + c.toNat
    base64Digit (n / 262144) :: base64Digit (n / 4096 % 64) :: base64Digit (n / 64 % 64)
      :: base64Digit (n % 64) :: base64 rest

/-- The header that a user in an address stands for. -/
def userHeader (u : Url) : List (String × String) :=
  if u.username = "" && u.password.isNone then []
  else
    let bytes (s : String) := Percent.decode (s.toList.flatMap String.utf8EncodeChar)
    let credentials := bytes u.username ++ 0x3A :: bytes (u.password.getD "")
    [("authorization", "Basic " ++ String.ofList (base64 credentials))]

/-- The error of an address that nothing can be sent to. -/
def notSendable (u : Url) : HttpError :=
  .transport s!"builder error for url ({u.text})"

/-- The error of a request that cannot be built. -/
def notBuildable : HttpError := .transport "builder error"

/-- Whether requests can be sent to an address. -/
def isSendable (u : Url) : Bool :=
  u.scheme = "http" || u.scheme = "https"

/-- **The request of a call.** `query` is what the call adds to the query of
the address. -/
def request (c : HttpClient) (method : HttpMethod) (path : String)
    (query : List (String × String)) (body : Option Json) : Except HttpError HttpRequest :=
  match Url.parse (c.addressText path) with
  | .error _ => .error notBuildable
  | .ok u =>
    let address := { u with username := "", password := none }
    if u.host.isNone then .error (notSendable u)
    else if !(c.token.all isHeaderText) then .error notBuildable
    else
      let address := if method = .get then addQuery address query else address
      if !isSendable address then .error (notSendable address)
      else
        .ok {
          method := method
          url := address
          headers := [("accept", "application/json"), ("user-agent", userAgent)] ++ userHeader u
            ++ (match c.token with
              | some token => [("authorization", "Bearer " ++ token)]
              | none => [])
            ++ (if body.isSome then [("content-type", "application/json")] else [])
          body := body.map Json.compact }

end HttpClient

namespace HttpRequest

/-- Whether a status tells success. -/
def isSuccess (status : Nat) : Bool :=
  200 ≤ status && status < 300

/-- **The body that came of a request**, if it succeeded. -/
def receive (r : HttpRequest) : Outcome → Except HttpError (List UInt8)
  | .unanswered => .error (.transport s!"error sending request for url ({r.url.text})")
  | .answered status body =>
    if isSuccess status then .ok body else .error (.status status (Utf8.decodeLossy body))

/-- A body as JSON of some shape. -/
def decodeBody {α : Type} (read : String → Except ReadFault α) (body : List UInt8) :
    Except HttpError α :=
  match Utf8.decode body with
  | .error fault => .error (.decode fault.message)
  | .ok text =>
    match read text with
    | .ok a => .ok a
    | .error fault => .error (.decode fault.message)

/-- The value of a text. -/
def readJson (text : String) : Except ReadFault Json :=
  match Json.ofText? text with
  | some v => .ok v
  | none => .error .notJson

/-- The JSON value that came of a request. -/
def receiveJson (r : HttpRequest) (outcome : Outcome) : Except HttpError Json := do
  decodeBody readJson (← r.receive outcome)

end HttpRequest

end Liveboard
