import Liveboard.Proofs.Fetch.Requests
import Liveboard.Proofs.Settings.Rules
import Liveboard.Url.Channel

/-!
# Where requests and the channel go

The address of the backend is used in two ways. The channel is one segment behind
its path, and is derived from the address as it was read. Requests go to a path
that is put behind its text, and the address is read afterwards. Settings are
valid if the address can be read and is one of the web; that says nothing about
what its text ends with.

The channel is always where it should be. Requests are (`HttpClient.Resolves`)
exactly if a slash behind the text is read as a slash behind the path, and valid
settings do not ensure this. `ClientSettings.addresses_agree` says both, and
`ClientSettings.addresses_disagree` is an address for which they do not agree.
-/

namespace Liveboard

open HttpClient (trimSlashes)

/-! ## Paths -/

namespace HttpClient

variable {c : HttpClient} {u v : Url}

/-- **Requests for a path go to the path behind the one of the address**, at the same host. -/
def Resolves (c : HttpClient) (u : Url) (path : String) : Prop :=
  ∃ v, Url.parse (c.addressText path) = .ok v ∧ v.scheme = u.scheme ∧ v.host = u.host ∧
    v.port = u.port ∧ v.pathText = trimSlashes u.pathText ++ "/" ++ escapedPath path ∧
    (c.token.all isHeaderText = true → ∀ method query body, ∃ r,
      c.request method path query body = .ok r ∧ r.url.scheme = v.scheme ∧ r.url.host = v.host ∧
        r.url.port = v.port ∧ r.url.path = v.path)

/-- **Plain paths are resolved** if a slash behind the text is a slash behind the path. -/
theorem resolves_of_extends {base : String} {host : Except UrlFault Url} {path : List Char}
    {names : List String} (e : Url.Extension (trimSlashes base).toList u host path names)
    (web : u.scheme = "http" ∨ u.scheme = "https") (behind : Url.Extends base u)
    (token : Option String) {asked : String} (plain : IsPlainPath asked) :
    (make base token).Resolves u asked := by
  obtain ⟨v, reads, scheme, sameHost, hasHost, samePort, -, -, resolved⟩ :=
    exists_parse_addressText e behind token plain
  refine ⟨v, reads, scheme, sameHost, samePort, ?_, fun sendable method query body => ?_⟩
  · exact (plain.pathText_eq_iff e.segments resolved e.slashless
      (Url.slashless_trimSegments e.slashless)).2 rfl
  · obtain ⟨r, ok, -, address⟩ :=
      request_of_parse reads hasHost (scheme ▸ web) sendable method query body
    refine ⟨r, ok, ?_⟩
    rw [address]
    split <;> exact ⟨rfl, rfl, rfl, rfl⟩

end HttpClient

/-- **The paths that are asked for.** -/
inductive ApiPath : String → Prop
  /-- The one of the snapshots. -/
  | snapshot : ApiPath SnapshotCall.path
  /-- The one of a call on the queues; what is cancelled has a name that a path can hold. -/
  | queue (call : QueueCall) (name : ∀ id, call = .cancel id → QueueCall.IsPathName id) :
    ApiPath call.path

theorem ApiPath.isPlainPath {path : String} (asked : ApiPath path) : IsPlainPath path := by
  cases asked with
  | snapshot => decide
  | queue call name =>
    cases call with
    | list | active => decide
    | config | updateConfig => exact (by decide : IsPlainPath QueueCall.config.path)
    | cancel id => exact QueueCall.isPlainPath_cancel (name id rfl)

/-! ## A slash behind the text -/

namespace HttpClient

/-- **If all paths are resolved, a slash behind the text is a slash behind the path.** Two of
them are enough: were there a query, both would be read as the same path. -/
theorem extends_of_resolves {base : String} {u : Url} {host : Except UrlFault Url}
    {path : List Char} {names : List String}
    (e : Url.Extension (trimSlashes base).toList u host path names) {token : Option String}
    (resolves : ∀ asked, ApiPath asked → (make base token).Resolves u asked) :
    Url.Extends base u := by
  have found : ∀ call : QueueCall, call = .list ∨ call = .active →
      ∃ w, host = .ok w ∧ w.host = u.host ∧ w.port = u.port ∧
        (w.withRest true (path ++ '/' :: Url.keptEnd call.path.toList)).pathText
          = trimSlashes u.pathText ++ "/" ++ escapedPath call.path := by
    intro call which
    have asked : ApiPath call.path := .queue call fun id same => by
      rcases which with rfl | rfl <;> cases same
    obtain ⟨v, ok, -, sameHost, samePort, text, -⟩ := resolves _ asked
    rw [addressText_make base token asked.isPlainPath.start] at ok
    obtain ⟨w, whose, rfl⟩ := e.exists_of_ok ok
    exact ⟨w, whose, sameHost, samePort, text⟩
  obtain ⟨w, whose, sameHost, samePort, list⟩ := found .list (.inl rfl)
  obtain ⟨w', whose', -, -, active⟩ := found .active (.inr rfl)
  obtain rfl := Except.ok.inj (whose.symm.trans whose')
  have inside : ∀ c ∈ path, Url.endsPath c = false := by
    by_contra no
    have ends : ∃ c ∈ path, Url.endsPath c = true := by simpa using no
    have same : ∀ rest rest', (w.withRest true (path ++ rest)).pathText
        = (w.withRest true (path ++ rest')).pathText := by
      intro rest rest'
      rw [Url.pathText, Url.pathText, Url.path_withRest_append ends, Url.path_withRest_append ends]
    rw [same _ ('/' :: Url.keptEnd QueueCall.active.path.toList), active, ← String.toList_inj,
      String.toList_append, String.toList_append (s := trimSlashes u.pathText ++ "/"),
      List.append_cancel_left_eq] at list
    exact absurd list (by decide)
  have plain := (ApiPath.queue .list fun id same => by cases same).isPlainPath
  have resolved := e.withRest_eq w (plain.inside inside)
  rw [plain.resolve_eq] at resolved
  rw [resolved] at list
  exact (Url.extends_iff e).2 ⟨w, whose, sameHost, samePort, inside,
    (plain.pathText_eq_iff e.segments rfl e.slashless (Url.slashless_leadsTo path)).1 list⟩

end HttpClient

/-! ## The channel -/

/-- **The address of the channel** is one segment behind the path of the address, at the same
host and under the scheme that goes with it. -/
theorem channelUrl_of_web {base : String} {u : Url} (ok : Url.parse base = .ok u)
    (web : u.scheme = "http" ∨ u.scheme = "https") :
    ∃ w, channelUrl base = .ok w ∧ w.scheme = (if u.scheme = "http" then "ws" else "wss") ∧
      w.host = u.host ∧ w.port = u.port ∧ w.pathText = trimSlashes u.pathText ++ "/ws" := by
  obtain ⟨names, path, slashless⟩ := Url.exists_names ok web
  have other := Url.port_ne_default ok web
  let scheme := if u.scheme = "http" then "ws" else "wss"
  have socket : socketScheme? u.scheme = some scheme ∧
      Url.defaultPort? scheme = Url.defaultPort? u.scheme := by
    rcases web with same | same <;> simp only [scheme, same] <;> exact ⟨rfl, rfl⟩
  have appended : (u.withScheme scheme).appendSegment "ws"
      = { u.withScheme scheme with path := .segments (Url.trimSegments names ++ ["ws"]) } := by
    rw [Url.appendSegment, show (u.withScheme scheme).path = .segments names from path]
  have single : Url.Slashless ["ws"] := by
    rintro _ mem
    obtain rfl := List.mem_singleton.1 mem
    decide
  refine ⟨(u.withScheme scheme).appendSegment "ws", ?_, ?_, ?_, ?_, ?_⟩
  · rw [channelUrl, ok]
    dsimp only
    rw [socket.1]
  · rw [appended]
    rfl
  · rw [appended]
    rfl
  · rw [appended]
    exact if_neg (socket.2 ▸ other)
  · rw [appended]
    exact (Url.pathText_eq_iff path rfl slashless
      ((Url.slashless_trimSegments slashless).append single) single).2 rfl

/-! ## Valid settings -/

namespace ClientSettings

/-- The address of valid settings is one of the web. -/
theorem exists_parse_of_validate {isFilter : String → Bool} {s : ClientSettings}
    (valid : s.validate (.standard isFilter) = .ok ()) :
    ∃ u, Url.parse s.baseUrl = .ok u ∧ (u.scheme = "http" ∨ u.scheme = "https") := by
  obtain ⟨-, u, parsed, scheme, -⟩ := holds_of_validate valid .baseUrl
  exact ⟨u, SettingsReaders.url_standard_eq_ok_iff.1 parsed, by simpa using scheme⟩

/-- Standard settings are valid with any good address. -/
theorem validate_standard {base : String}
    (good : baseUrlIssues .standard { standard with baseUrl := base } = []) :
    validate { standard with baseUrl := base } = .ok () :=
  validate_standard_with LogFilter.isPlain_info good (List.isEmpty_iff.1 (by decide +kernel))

/-- **Where requests and the channel go**, under valid settings, whatever their log may be
filtered by. The address can be read and is one of the web. The channel is one segment behind
its path, at its host and port, whatever the text is. Requests go to the paths behind its path,
at its host and port, if and only if a slash behind the text is read as a slash behind the path.
This is so for the usual texts. -/
theorem addresses_agree (isFilter : String → Bool) (s : ClientSettings)
    (valid : s.validate (.standard isFilter) = .ok ()) :
    ∃ u, Url.parse s.baseUrl = .ok u ∧ (u.scheme = "http" ∨ u.scheme = "https") ∧
      (s.channelUrl = none → ∃ w : Url, s.resolvedChannelUrl = .ok w.text ∧
        w.scheme = (if u.scheme = "http" then "ws" else "wss") ∧ w.host = u.host ∧
        w.port = u.port ∧ w.pathText = trimSlashes u.pathText ++ "/ws") ∧
      ((∀ path, ApiPath path → (HttpClient.ofSettings s).Resolves u path) ↔
        Url.Extends s.baseUrl u) ∧
      (Url.IsOrdinary s.baseUrl → u.query = none → u.fragment = none →
        Url.Extends s.baseUrl u) := by
  obtain ⟨u, ok, web⟩ := exists_parse_of_validate valid
  refine ⟨u, ok, web, fun derived => ?_, ?_, fun ordinary query fragment =>
    Url.extends_of_isOrdinary ok web query fragment ordinary⟩
  · obtain ⟨w, channel, rest⟩ := channelUrl_of_web ok web
    refine ⟨w, ?_, rest⟩
    rw [resolvedChannelUrl, derived]
    dsimp only
    rw [channel]
    rfl
  · obtain ⟨k, text⟩ := Url.exists_trimSlashes s.baseUrl
    obtain ⟨host, path, names, e, -⟩ := Url.exists_extension (text ▸ ok) web
    exact ⟨HttpClient.extends_of_resolves e, fun behind path asked =>
      HttpClient.resolves_of_extends e web behind s.token asked.isPlainPath⟩

/-- The address of the standard settings, read. -/
def standardUrl : Url where
  scheme := "http"
  username := ""
  password := none
  host := some (.ipv4 2130706433)
  port := some 8000
  path := .segments ["api", "v1"]
  query := none
  fragment := none

theorem addresses_agree_standard :
    standard.validate = .ok () ∧
      (HttpClient.ofSettings standard).Resolves standardUrl SnapshotCall.path := by
  have valid : standard.validate = .ok () :=
    validate_standard (List.isEmpty_iff.1 (by decide +kernel))
  obtain ⟨u, ok, -, -, resolves, usual⟩ := addresses_agree LogFilter.isPlain standard valid
  have parsed : Url.parse standard.baseUrl = .ok standardUrl := by decide +kernel
  obtain rfl := Except.ok.inj (ok.symm.trans parsed)
  have ordinary : Url.IsOrdinary standard.baseUrl := by decide
  exact ⟨valid, resolves.2 (usual ordinary rfl rfl) _ .snapshot⟩

/-- The settings that come from a text with a blank at its end. -/
def blankAtEnd : ClientSettings :=
  { standard with baseUrl := "http://127.0.0.1:8000/api/v1 " }

/-- **They do not agree**: the settings are valid, and the path of their address is `/api/v1`;
but requests go to a path behind another one. -/
theorem addresses_disagree :
    blankAtEnd.validate = .ok () ∧
      (Url.parse blankAtEnd.baseUrl).map Url.pathText = .ok "/api/v1" ∧
      (Url.parse ((HttpClient.ofSettings blankAtEnd).addressText QueueCall.list.path)).map
        Url.pathText = .ok "/api/v1%20/dashboard/queues" :=
  ⟨validate_standard (List.isEmpty_iff.1 (by decide +kernel)), by decide +kernel,
    by decide +kernel⟩

end ClientSettings

end Liveboard
