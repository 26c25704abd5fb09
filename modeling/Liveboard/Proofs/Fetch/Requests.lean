import Liveboard.Fetch.Api
import Liveboard.Proofs.Fetch.Bases

/-!
# Requests for a path

A request goes to the address that is read when its path is put behind the text of
the base. A path ends up there as it is if all of it counts, and nothing in it ends
the path or leads to another folder; such a path is plain (`IsPlainPath`). The
paths of the calls are of this kind. Only the path of a request that is cancelled
need not be, for it ends with a name that comes from outside, and a name may be
dots or hold any mark but a slash. `QueueCall.isPlainPath_cancel` says which names
keep it plain.

Which requests are made at all is said in both directions, from the address to the
request (`HttpClient.request_of_parse`) and back (`HttpClient.exists_of_request`).
-/

namespace Liveboard

open HttpClient (trimSlashes)

/-! ## Paths -/

/-- **A path that can be put behind an address as it is.** -/
structure IsPlainPath (path : String) : Prop where
  /-- All of it counts at the end of a text. -/
  kept : Url.keptEnd path.toList = path.toList
  /-- It has no query and no fragment, and no other slashes. -/
  marks : ∀ c ∈ path.toList, Url.endsPath c = false ∧ c ≠ '\\'
  /-- It does not begin with a slash. -/
  start : path.toList.head? ≠ some '/'
  /-- No part of it is dots. -/
  plain : ∀ part ∈ Url.splitSlashes true path.toList, Url.IsPlain part

-- A member is found in the list, not among all characters.
instance (path : String) : Decidable (IsPlainPath path) :=
  decidable_of_iff
    (Url.keptEnd path.toList = path.toList ∧
      path.toList.all (fun c => !Url.endsPath c && c != '\\') = true ∧
      path.toList.head? ≠ some '/' ∧
      ∀ part ∈ Url.splitSlashes true path.toList, Url.IsPlain part)
    ⟨fun ⟨kept, marks, start, plain⟩ => ⟨kept, by simpa using marks, start, plain⟩,
      fun h => ⟨h.kept, by simpa using h.marks, h.start, h.plain⟩⟩

/-- A path as it is written. -/
def escapedPath (path : String) : String :=
  String.ofList (Percent.encode Percent.path path.toList)

namespace IsPlainPath

variable {path : String} (plain : IsPlainPath path)
include plain

/-- A plain path leads to the names that its parts are. -/
theorem resolve_eq (names : List String) :
    Url.resolve names (Url.splitSlashes true (Url.keptEnd path.toList))
      = names ++ (Url.splitSlashes true path.toList).map Url.nameOf := by
  rw [plain.kept, Url.resolve_of_isPlain (Url.splitSlashes_ne_nil _) plain.plain]

theorem inside {front : List Char} (before : ∀ c ∈ front, Url.endsPath c = false) :
    ∀ c ∈ front ++ '/' :: Url.keptEnd path.toList, Url.endsPath c = false := by
  rw [plain.kept]
  exact List.forall_mem_append.2
    ⟨before, List.forall_mem_cons.2 ⟨rfl, fun c mem => (plain.marks c mem).1⟩⟩

/-- An address is written as a plain path behind another one if its names are those of the
other one, and then those of the path. -/
theorem pathText_eq_iff {u v : Url} {names names' : List String} (path' : u.path = .segments names)
    (resolved : v.path = .segments (names' ++ (Url.splitSlashes true path.toList).map Url.nameOf))
    (slashless : Url.Slashless names) (slashless' : Url.Slashless names') :
    v.pathText = trimSlashes u.pathText ++ "/" ++ escapedPath path ↔
      names' = Url.trimSegments names := by
  have written : "/" ++ escapedPath path
      = String.ofList (Url.written ((Url.splitSlashes true path.toList).map Url.nameOf)) := by
    rw [Url.written_map_nameOf fun mem => (plain.marks _ mem).2 rfl, escapedPath,
      ← String.toList_inj, Url.toList_slash_append, String.toList_ofList, String.toList_ofList]
  have more : Url.Slashless ((Url.splitSlashes true path.toList).map Url.nameOf) := by
    intro name mem
    obtain ⟨part, inside, rfl⟩ := List.mem_map.1 mem
    exact Url.slashless_nameOf (Url.slash_not_mem_of_mem_splitSlashes inside)
  rw [String.append_assoc, written,
    Url.pathText_eq_iff path' resolved slashless (slashless'.append more) more,
    List.append_cancel_right_eq]

end IsPlainPath

/-! ## Requests -/

namespace HttpClient

variable {c : HttpClient} {v : Url}

/-- A request is made for every web address, if the token can be sent. -/
theorem request_of_parse {path : String} (ok : Url.parse (c.addressText path) = .ok v)
    (host : v.host.isSome = true) (web : v.scheme = "http" ∨ v.scheme = "https")
    (sendable : c.token.all isHeaderText = true) (method : HttpMethod)
    (query : List (String × String)) (body : Option Json) :
    ∃ r, c.request method path query body = .ok r ∧ r.method = method ∧
      r.url = if method = .get then addQuery { v with username := "", password := none } query
        else { v with username := "", password := none } := by
  have some : v.host.isNone = false := by simpa using host
  have sent : isSendable (if method = .get then addQuery { v with username := "", password := none }
      query else { v with username := "", password := none }) = true := by
    have scheme : ∀ w : Url, w.scheme = v.scheme → isSendable w = true := by
      intro w same
      rw [isSendable, same]
      rcases web with scheme | scheme <;> rw [scheme] <;> rfl
    split
    · exact scheme _ rfl
    · exact scheme _ rfl
  rw [request, ok]
  dsimp only
  rw [some, sendable, sent, if_neg Bool.false_ne_true, if_neg (by simp), if_neg (by simp)]
  exact ⟨_, rfl, rfl, rfl⟩

/-- **Nothing else is requested.** -/
theorem exists_of_request {path : String} {method : HttpMethod} {query : List (String × String)}
    {body : Option Json} {r : HttpRequest} (ok : c.request method path query body = .ok r) :
    ∃ v, Url.parse (c.addressText path) = .ok v ∧ c.token.all isHeaderText = true ∧
      (r.url.scheme = "http" ∨ r.url.scheme = "https") ∧ r.method = method ∧
      r.url = if method = .get then addQuery { v with username := "", password := none } query
        else { v with username := "", password := none } := by
  rw [request] at ok
  cases read : Url.parse (c.addressText path) with
  | error fault =>
    rw [read] at ok
    cases ok
  | ok v =>
    rw [read] at ok
    dsimp only at ok
    by_cases host : v.host.isNone = true
    · rw [if_pos host] at ok
      cases ok
    · rw [if_neg host] at ok
      by_cases token : c.token.all isHeaderText = true
      · rw [if_neg (by simp [token])] at ok
        by_cases sent : isSendable (if method = .get then
            addQuery { v with username := "", password := none } query
          else { v with username := "", password := none }) = true
        · rw [if_neg (by simp [sent])] at ok
          obtain rfl := Except.ok.inj ok
          exact ⟨v, rfl, token, by simpa [isSendable] using sent, rfl, rfl⟩
        · rw [if_pos (by simp [sent])] at ok
          cases ok
      · rw [if_pos (by simp [token])] at ok
        cases ok

/-- Before anything was sent, nothing is known of the backend. -/
theorem exists_transport_of_request {path : String} {method : HttpMethod}
    {query : List (String × String)} {body : Option Json} {error : HttpError}
    (failed : c.request method path query body = .error error) :
    ∃ reason, error = .transport reason := by
  rw [request] at failed
  cases read : Url.parse (c.addressText path) with
  | error fault =>
    rw [read] at failed
    exact ⟨_, (Except.error.inj failed).symm⟩
  | ok v =>
    rw [read] at failed
    dsimp only at failed
    split_ifs at failed
    all_goals exact ⟨_, (Except.error.inj failed).symm⟩

/-- The text that a path is put behind. -/
theorem addressText_make (base : String) (token : Option String) {path : String}
    (start : path.toList.head? ≠ some '/') :
    (make base token).addressText path
      = String.ofList ((trimSlashes base).toList ++ '/' :: path.toList) := by
  have whole : path.toList.dropWhile (· = '/') = path.toList := by
    cases cs : path.toList with
    | nil => rfl
    | cons c cs =>
      rw [cs] at start
      exact List.dropWhile_cons_of_neg (by simpa using start)
  have text : (make base token).base = trimSlashes base := rfl
  rw [addressText, text, whole, String.append_assoc, ← String.toList_inj, String.toList_append,
    Url.toList_slash_append, String.toList_ofList, String.toList_ofList]

/-- **A plain path ends up behind the path of the base**, if a slash behind its text does. -/
theorem exists_parse_addressText {base : String} {u : Url} {host : Except UrlFault Url}
    {path : List Char} {names : List String}
    (e : Url.Extension (trimSlashes base).toList u host path names) (behind : Url.Extends base u)
    (token : Option String) {asked : String} (plain : IsPlainPath asked) :
    ∃ v, Url.parse ((make base token).addressText asked) = .ok v ∧ v.scheme = u.scheme ∧
      v.host = u.host ∧ v.host.isSome = true ∧ v.port = u.port ∧ v.query = none ∧
      v.fragment = none ∧ v.path = .segments
        (Url.trimSegments names ++ (Url.splitSlashes true asked.toList).map Url.nameOf) := by
  obtain ⟨w, rfl, sameHost, samePort, inside, leads⟩ := (Url.extends_iff e).1 behind
  obtain ⟨scheme, hasHost⟩ := e.host_ok w rfl
  have reads : Url.parse ((make base token).addressText asked)
      = .ok (w.withRest true (path ++ '/' :: Url.keptEnd asked.toList)) := by
    rw [addressText_make base token plain.start, e.reads]
    rfl
  rw [e.withRest_eq w (plain.inside inside), plain.resolve_eq, leads] at reads
  exact ⟨_, reads, scheme, sameHost, hasHost, samePort, rfl, rfl, rfl⟩

end HttpClient

/-! ## Names of requests -/

/-- **A name of a request that a path holds as it is.** -/
structure QueueCall.IsPathName (id : String) : Prop where
  /-- It is a name. -/
  isName : QueueCall.isName id = true
  /-- All of it counts, and no character ends the path or the segment. -/
  marks : ∀ c ∈ id.toList, Url.isKept c = true ∧ Url.endsPath c = false ∧ c ≠ '\\'
  /-- It does not end with a blank. -/
  ending : ∀ c ∈ id.toList.getLast?, Url.isBlank c = false
  /-- It is no dots. -/
  plain : Url.IsPlain id.toList

instance (id : String) : Decidable (QueueCall.IsPathName id) :=
  decidable_of_iff
    (QueueCall.isName id = true ∧
      id.toList.all (fun c => Url.isKept c && !Url.endsPath c && c != '\\') = true ∧
      id.toList.getLast?.all (!Url.isBlank ·) = true ∧ Url.IsPlain id.toList)
    ⟨fun ⟨name, marks, ending, plain⟩ =>
        ⟨name, by simpa [and_assoc] using marks, by simpa [Option.all_eq_true] using ending, plain⟩,
      fun h => ⟨h.isName, by simpa [and_assoc] using h.marks,
        by simpa [Option.all_eq_true] using h.ending, h.plain⟩⟩

theorem QueueCall.isName_iff {id : String} :
    isName id = true ↔ id.toList ≠ [] ∧ '/' ∉ id.toList := by
  simp [isName]

/-- The path of a request that is cancelled. -/
theorem QueueCall.toList_path_cancel (id : String) :
    (QueueCall.cancel id).path.toList = root.toList ++ '/' :: id.toList := by
  rw [path, String.append_assoc, String.toList_append, Url.toList_slash_append]

theorem QueueCall.head?_path_cancel (id : String) :
    (QueueCall.cancel id).path.toList.head? ≠ some '/' := by
  have first : root.toList = 'd' :: root.toList.tail := by decide
  rw [toList_path_cancel, first, List.cons_append, List.head?_cons]
  decide

/-- The path of the queues leads to two names. -/
theorem QueueCall.isPlain_root :
    ∀ part ∈ Url.splitSlashes true root.toList, Url.IsPlain part := by
  decide

theorem QueueCall.map_nameOf_root :
    (Url.splitSlashes true root.toList).map Url.nameOf = ["dashboard", "queues"] := by
  decide

theorem QueueCall.keptEnd_path_cancel (id : String) :
    Url.keptEnd (QueueCall.cancel id).path.toList
      = root.toList ++ '/' :: Url.keptEnd id.toList := by
  rw [toList_path_cancel, Url.keptEnd_append]
  rfl

/-- The path of a request that is cancelled leads to three names. -/
theorem QueueCall.map_nameOf_cancel {id : String}
    (single : ∀ c ∈ id.toList, Url.isSlash c = false) :
    (Url.splitSlashes true (cancel id).path.toList).map Url.nameOf
      = ["dashboard", "queues", Url.nameOf id.toList] := by
  rw [toList_path_cancel, Url.splitSlashes_append _ rfl, Url.splitSlashes_of_not_mem single,
    List.map_append, map_nameOf_root]
  rfl

/-- It is one part of a path. -/
theorem QueueCall.IsPathName.isSlash {id : String} (name : IsPathName id) :
    ∀ c ∈ id.toList, Url.isSlash c = false := by
  intro c mem
  have other : c ≠ '/' := fun same => (isName_iff.1 name.isName).2 (same ▸ mem)
  simp [Url.isSlash, other, (name.marks c mem).2.2]

/-- All of it counts. -/
theorem QueueCall.IsPathName.keptEnd_eq {id : String} (name : IsPathName id) :
    Url.keptEnd id.toList = id.toList :=
  Url.keptEnd_eq_self_iff.2 ⟨fun c mem => (name.marks c mem).1, name.ending⟩

/-- **The path of a request that is cancelled** ends up as it is if the name does. -/
theorem QueueCall.isPlainPath_cancel {id : String} (name : IsPathName id) :
    IsPlainPath (QueueCall.cancel id).path := by
  have front : ∀ c ∈ root.toList ++ ['/'], Url.endsPath c = false ∧ c ≠ '\\' := by
    have all : (root.toList ++ ['/']).all (fun c => !Url.endsPath c && c != '\\') = true := by
      decide
    exact fun c mem => by simpa using List.all_eq_true.1 all c mem
  refine ⟨?_, fun c mem => ?_, head?_path_cancel id, fun part mem => ?_⟩
  · rw [keptEnd_path_cancel, name.keptEnd_eq, toList_path_cancel]
  · rw [toList_path_cancel, List.append_cons, List.mem_append] at mem
    exact mem.elim (front c) fun inside => (name.marks c inside).2
  · rw [toList_path_cancel, Url.splitSlashes_append _ rfl, Url.splitSlashes_of_not_mem name.isSlash,
      List.mem_append, List.mem_singleton] at mem
    exact mem.elim (isPlain_root part) fun same => same ▸ name.plain

end Liveboard
