import Liveboard.Settings.Basic
import Liveboard.Url.Basic

/-!
# The address of the push channel

Where no address of the push channel is configured, it is derived from the
one of the backend (`channelUrl`): the scheme for web sockets in place of the
one for the web, and one segment more. It is derived from the address as it
was read and not from its text, so blanks and slashes at the end of the text
make no difference.
-/

namespace Liveboard

/-- **Why no address of the channel can be derived.** -/
inductive ChannelUrlFault where
  /-- The address of the backend is no address. -/
  | invalid (base : String) (fault : UrlFault)
  /-- The address of the backend is none of the web. -/
  | unsupported (scheme : String)
  deriving DecidableEq, Repr

/-- The wording of a fault. -/
def ChannelUrlFault.message : ChannelUrlFault → String
  | .invalid base fault => s!"Invalid api_base_url '{base}': {fault.message}"
  | .unsupported scheme => s!"Unsupported api_base_url scheme '{scheme}'"

/-- The scheme for web sockets that goes with one of the web. -/
def socketScheme? : String → Option String
  | "http" => some "ws"
  | "https" => some "wss"
  | _ => none

/-- **The address of the channel that goes with the one of the backend.** -/
def channelUrl (base : String) : Except ChannelUrlFault Url :=
  match Url.parse base with
  | .error fault => .error (.invalid base fault)
  | .ok u =>
    match socketScheme? u.scheme with
    | some scheme => .ok ((u.withScheme scheme).appendSegment "ws")
    | none => .error (.unsupported u.scheme)

/-- **The address of the channel to open.** One that is configured is taken
as it is. -/
def ClientSettings.resolvedChannelUrl (s : ClientSettings) : Except ChannelUrlFault String :=
  match s.channelUrl with
  | some url => .ok url
  | none => (Liveboard.channelUrl s.baseUrl).map Url.text

end Liveboard
