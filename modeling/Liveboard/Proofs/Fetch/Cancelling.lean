import Liveboard.Proofs.Fetch.Requests

/-!
# Which request is cancelled

To cancel a request, one removes what stands behind the path of the queues under
its name. A name comes from outside. It is put into the path as it is, and the path
is read afterwards, so a name can change what is removed: dots lead out of the
queues (`QueueCall.cancel_dots`), a question mark ends the path, and an escape
stands for another name. Names that are empty or hold a slash are not asked for,
and a slash is the one mark of a path that a name cannot smuggle in; but the others
are not looked at.

Which names are safe can be said exactly (`QueueCall.cancel_stays_iff`). One that
stands for itself was not changed on the way: everything that reading does to a
name makes it shorter, and so does everything that an escape stands for. Comparing
lengths is thus enough, and the steps of reading need not be taken apart.
-/

namespace Liveboard

open HttpClient (trimSlashes)

namespace QueueCall

/-- **A request removes what has a name, and nothing else**: the one segment behind the path of
the queues that stands for the name. -/
structure Stays (u : Url) (id : String) (r : HttpRequest) : Prop where
  /-- It removes something. -/
  method : r.method = .delete
  /-- It has the scheme of the address of the backend. -/
  scheme : r.url.scheme = u.scheme
  /-- It goes to the host of this address. -/
  host : r.url.host = u.host
  /-- It goes to the port of this address. -/
  port : r.url.port = u.port
  /-- It has no query. -/
  query : r.url.query = none
  /-- It has no fragment. -/
  fragment : r.url.fragment = none
  /-- Behind the path of the queues is one segment, and it stands for the name. -/
  path : ∃ segment : String,
    r.url.pathText = trimSlashes u.pathText ++ ("/" ++ root ++ "/" ++ segment) ∧
      '/' ∉ segment.toList ∧
      Percent.decode (Percent.bytes segment.toList) = Percent.bytes id.toList

/-- A name is asked for exactly if it could be one. -/
theorem request_cancel_of_isName {id : String} (name : isName id = true) (c : HttpClient) :
    (cancel id).request c
      = (c.request .delete (cancel id).path [] none).mapError (HttpError.toQueueError id) :=
  if_pos name

theorem request_cancel_ok_iff {id : String} (name : isName id = true) {c : HttpClient}
    {r : HttpRequest} :
    (cancel id).request c = .ok r ↔ c.request .delete (cancel id).path [] none = .ok r := by
  rw [request_cancel_of_isName name]
  cases c.request .delete (cancel id).path [] none with
  | error e => exact iff_of_false (fun no => by cases no) fun no => by cases no
  | ok r' =>
    show Except.ok r' = .ok r ↔ _
    rw [Except.ok.injEq, Except.ok.injEq]

/-- **What cannot be a name is reported as missing**, and nothing else is, before anything was
sent. -/
theorem request_cancel_notFound_iff {id : String} {c : HttpClient} :
    (cancel id).request c = .error (.notFound id) ↔ isName id = false := by
  cases name : isName id with
  | false =>
    refine iff_of_true ?_ rfl
    exact if_neg (by rw [name]; exact Bool.false_ne_true)
  | true =>
    refine iff_of_false (fun missing => ?_) fun no => by cases no
    rw [request_cancel_of_isName name] at missing
    cases sent : c.request .delete (cancel id).path [] none with
    | error e =>
      obtain ⟨reason, rfl⟩ := HttpClient.exists_transport_of_request sent
      rw [sent] at missing
      cases missing
    | ok r =>
      rw [sent] at missing
      cases missing

/-- The path of the queues as names. -/
theorem root_append (segment : String) :
    "/" ++ root ++ "/" ++ segment
      = String.ofList (Url.written ["dashboard", "queues", segment]) := by
  have front : "/" ++ root = String.ofList (Url.written ["dashboard", "queues"]) := by decide
  have last : Url.written [segment] = '/' :: segment.toList := by
    rw [Url.written_cons, Url.written, List.flatMap_nil, List.append_nil]
  rw [String.append_assoc, front, ← String.toList_inj, String.toList_append,
    Url.toList_slash_append, String.toList_ofList, String.toList_ofList, ← last,
    ← Url.written_append]
  rfl

theorem slashless_root {segment : String} (noSlash : '/' ∉ segment.toList) :
    Url.Slashless ["dashboard", "queues", segment] := by
  intro name mem
  simp only [List.mem_cons, List.not_mem_nil, or_false] at mem
  rcases mem with rfl | rfl | rfl
  · decide
  · decide
  · exact noSlash

/-- The last name of a path that was put behind another: dots leave an empty one. -/
theorem pushSegment_eq_concat {path names : List String} {part : List Char} {segment : String}
    (ends : Url.pushSegment true path part = names ++ [segment]) :
    segment = "" ∨ (Url.IsPlain part ∧ path = names ∧ segment = Url.nameOf part) := by
  by_cases plain : Url.IsPlain part
  · rw [Url.pushSegment_of_isPlain plain] at ends
    obtain ⟨rfl, same⟩ := List.append_inj' ends rfl
    exact .inr ⟨plain, rfl, (List.singleton_inj.1 same).symm⟩
  · refine .inl ?_
    have dots : ∃ front, Url.pushSegment true path part = front ++ [""] := by
      cases double : Url.isDoubleDot part with
      | true => exact ⟨path.dropLast, by rw [Url.pushSegment, double]; rfl⟩
      | false =>
        cases single : Url.isSingleDot part with
        | true => exact ⟨path, by rw [Url.pushSegment, double, single]; rfl⟩
        | false => exact absurd ⟨single, double⟩ plain
    obtain ⟨front, split⟩ := dots
    exact (List.singleton_inj.1 (List.append_inj' (split.symm.trans ends) rfl).2).symm

/-- What counts of a name is taken from it. -/
theorem keptEnd_sublist (cs : List Char) : (Url.keptEnd cs).Sublist cs :=
  List.filter_sublist.trans (List.rdropWhile_prefix _ _).sublist

/-- **Where the path of a request that is cancelled leads**: its name is read in the folder of
the queues. -/
theorem resolve_cancel (names : List String) (id : String) :
    Url.resolve names (Url.splitSlashes true (Url.keptEnd (cancel id).path.toList))
      = Url.resolve (names ++ ["dashboard", "queues"])
          (Url.splitSlashes true (Url.keptEnd id.toList)) := by
  rw [keptEnd_path_cancel, Url.splitSlashes_append _ rfl,
    Url.resolve_append isPlain_root (Url.splitSlashes_ne_nil _), map_nameOf_root]

/-- **A name that stands for itself** was not changed on the way. -/
theorem eq_of_resolve {names names' : List String} {id segment : String} (some : id.toList ≠ [])
    (ends : Url.resolve names (Url.splitSlashes true (Url.keptEnd id.toList)) = names' ++ [segment])
    (stands : Percent.decode (Percent.bytes segment.toList) = Percent.bytes id.toList) :
    names = names' ∧ Url.keptEnd id.toList = id.toList ∧ Url.IsPlain id.toList ∧
      (∀ c ∈ id.toList, Url.isSlash c = false) ∧
      Percent.decode (Percent.bytes id.toList) = Percent.bytes id.toList := by
  obtain ⟨before, last, split⟩ :=
    (List.eq_nil_or_concat' _).resolve_left (Url.splitSlashes_ne_nil (Url.keptEnd id.toList))
  rw [Url.resolve, split, List.dropLast_concat, List.getLastD_concat] at ends
  rcases pushSegment_eq_concat ends with rfl | ⟨plain, folder, rfl⟩
  · obtain ⟨c, cs, chars⟩ := List.exists_cons_of_ne_nil some
    rw [chars, Percent.bytes_cons] at stands
    exact absurd (List.append_eq_nil_iff.1 stands.symm).1 String.utf8EncodeChar_ne_nil
  · have mem : last ∈ Url.splitSlashes true (Url.keptEnd id.toList) := by
      rw [split]
      exact List.mem_append_right _ (List.mem_singleton_self last)
    have sub := Url.sublist_of_mem_splitSlashes mem
    rw [Url.nameOf, String.toList_ofList, Percent.decode_bytes_encode] at stands
    obtain ⟨rfl, escapes⟩ :=
      Percent.eq_of_decode_bytes (sub.trans (keptEnd_sublist id.toList)) stands
    have kept : Url.keptEnd id.toList = id.toList := (keptEnd_sublist id.toList).antisymm sub
    have noSlash := Url.slash_not_mem_of_mem_splitSlashes mem
    rw [kept, Url.splitSlashes_of_not_mem noSlash] at split
    obtain rfl : before = [] := by simpa using split
    exact ⟨folder, kept, plain, noSlash, escapes⟩

/-- **If a request removes what has a name**, the name was not changed on the way. -/
theorem isPathName_of_stays {base : String} {u : Url} {host : Except UrlFault Url}
    {path : List Char} {names : List String}
    (e : Url.Extension (trimSlashes base).toList u host path names) {token : Option String}
    {id : String} (name : isName id = true) {r : HttpRequest}
    (sent : (HttpClient.make base token).request .delete (cancel id).path [] none = .ok r)
    (stays : Stays u id r) :
    Url.Extends base u ∧ IsPathName id ∧
      Percent.decode (Percent.bytes id.toList) = Percent.bytes id.toList := by
  obtain ⟨v, read, -, -, -, address⟩ := HttpClient.exists_of_request sent
  rw [if_neg (by decide)] at address
  rw [HttpClient.addressText_make base token (head?_path_cancel id)] at read
  obtain ⟨w, whose, rfl⟩ := e.exists_of_ok read
  have inside := Url.inside_of_withRest (u := w) (by simpa [address] using stays.query)
    (by simpa [address] using stays.fragment)
  rw [e.withRest_eq w inside, resolve_cancel] at address
  obtain ⟨segment, text, noSlash, stands⟩ := stays.path
  have slashless := slashless_root noSlash
  have slashless' : Url.Slashless (Url.leadsTo path ++ ["dashboard", "queues"]) :=
    (Url.slashless_leadsTo path).append fun n mem =>
      slashless n (List.mem_append_left [segment] mem)
  rw [root_append] at text
  have ends := (Url.pathText_eq_iff e.segments (by rw [address]) e.slashless
    (Url.slashless_resolve slashless' _) slashless).1 text
  rw [show ["dashboard", "queues", segment] = ["dashboard", "queues"] ++ [segment] from rfl,
    ← List.append_assoc] at ends
  obtain ⟨leads, kept, plain, noSlash, escapes⟩ := eq_of_resolve (isName_iff.1 name).1 ends stands
  rw [keptEnd_path_cancel, kept] at inside
  obtain ⟨counts, ending⟩ := Url.keptEnd_eq_self_iff.1 kept
  refine ⟨(Url.extends_iff e).2 ⟨w, whose, ?_, ?_, fun c mem =>
    inside c (List.mem_append_left _ mem), List.append_cancel_right leads⟩,
    ⟨name, fun c mem => ⟨counts c mem, ?_, ?_⟩, ending, plain⟩, escapes⟩
  · rw [← stays.host, address]
  · rw [← stays.port, address]
  · exact inside c (by simp [mem])
  · rintro rfl
    cases noSlash _ mem

/-- **A name that a path holds as it is stands for itself**, unless it has escapes. -/
theorem stays_of_isPathName {base : String} {u : Url} {host : Except UrlFault Url}
    {path : List Char} {names : List String}
    (e : Url.Extension (trimSlashes base).toList u host path names) {token : Option String}
    (sendable : (HttpClient.make base token).token.all HttpClient.isHeaderText = true)
    (web : u.scheme = "http" ∨ u.scheme = "https") (behind : Url.Extends base u) {id : String}
    (name : IsPathName id)
    (escapes : Percent.decode (Percent.bytes id.toList) = Percent.bytes id.toList) :
    ∃ r, (HttpClient.make base token).request .delete (cancel id).path [] none = .ok r ∧
      Stays u id r := by
  obtain ⟨v, reads, scheme, sameHost, hasHost, samePort, query, fragment, resolved⟩ :=
    HttpClient.exists_parse_addressText e behind token (isPlainPath_cancel name)
  rw [map_nameOf_cancel name.isSlash] at resolved
  obtain ⟨r, ok, method, address⟩ :=
    HttpClient.request_of_parse reads hasHost (scheme ▸ web) sendable .delete [] none
  rw [if_neg (by decide)] at address
  have slashless := slashless_root (Url.slashless_nameOf name.isSlash)
  have text : r.url.pathText
      = trimSlashes u.pathText ++ ("/" ++ root ++ "/" ++ Url.nameOf id.toList) := by
    rw [root_append, Url.pathText_eq_iff e.segments (by rw [address, resolved]) e.slashless
      ((Url.slashless_trimSegments e.slashless).append slashless) slashless]
  refine ⟨r, ok, method, ?_, ?_, ?_, ?_, ?_, Url.nameOf id.toList, text,
    Url.slashless_nameOf name.isSlash, ?_⟩
  · rw [address]
    exact scheme
  · rw [address]
    exact sameHost
  · rw [address]
    exact samePort
  · rw [address]
    exact query
  · rw [address]
    exact fragment
  · rw [Url.nameOf, String.toList_ofList, Percent.decode_bytes_encode, escapes]

/-- **Which request is cancelled.** A name that is empty or holds a slash is reported as
missing, and nothing is sent. For any other name a request is sent that removes what has the
name and nothing else, if and only if requests can be sent at all, a slash behind the text of
the address is a slash behind its path, and the name is held by a path as it is and has no
escapes. -/
theorem cancel_stays_iff {base : String} {u : Url} (ok : Url.parse base = .ok u)
    (token : Option String) (id : String) :
    ((cancel id).request (.make base token) = .error (.notFound id) ↔ isName id = false) ∧
      (isName id = true →
        ((∃ r, (cancel id).request (.make base token) = .ok r ∧ Stays u id r) ↔
          ((HttpClient.make base token).token.all HttpClient.isHeaderText = true ∧
              (u.scheme = "http" ∨ u.scheme = "https")) ∧
            Url.Extends base u ∧ IsPathName id ∧
            Percent.decode (Percent.bytes id.toList) = Percent.bytes id.toList)) := by
  refine ⟨request_cancel_notFound_iff, fun name => ?_⟩
  simp only [request_cancel_ok_iff name]
  obtain ⟨k, text⟩ := Url.exists_trimSlashes base
  constructor
  · rintro ⟨r, sent, stays⟩
    obtain ⟨-, -, sendable, web, -⟩ := HttpClient.exists_of_request sent
    rw [stays.scheme] at web
    obtain ⟨host, path, names, e, -⟩ := Url.exists_extension (text ▸ ok) web
    exact ⟨⟨sendable, web⟩, isPathName_of_stays e name sent stays⟩
  · rintro ⟨⟨sendable, web⟩, behind, pathName, escapes⟩
    obtain ⟨host, path, names, e, -⟩ := Url.exists_extension (text ▸ ok) web
    exact stays_of_isPathName e sendable web behind pathName escapes

/-- The address of a backend on this machine. -/
def loopback : Url where
  scheme := "http"
  username := ""
  password := none
  host := some (.ipv4 2130706433)
  port := some 8000
  path := .segments ["api", "v1"]
  query := none
  fragment := none

theorem cancel_stays_iff_loopback :
    Url.parse "http://127.0.0.1:8000/api/v1" = .ok loopback ∧
      ∃ r, (cancel "req 1").request (.make "http://127.0.0.1:8000/api/v1" none) = .ok r ∧
        Stays loopback "req 1" r := by
  have ok : Url.parse "http://127.0.0.1:8000/api/v1" = .ok loopback := by decide +kernel
  have behind : Url.Extends "http://127.0.0.1:8000/api/v1" loopback :=
    Url.extends_of_isOrdinary ok (.inl rfl) rfl rfl (by decide)
  have name : IsPathName "req 1" := by decide
  exact ⟨ok, ((cancel_stays_iff ok none "req 1").2 name.isName).2
    ⟨⟨rfl, .inl rfl⟩, behind, name, by decide⟩⟩

/-- **Dots lead out of the queues**: two of them are a name, but what is removed under this name
is the folder above. -/
theorem cancel_dots :
    Url.parse "http://127.0.0.1:8000/api/v1" = .ok loopback ∧ isName ".." = true ∧
      ∃ r, (cancel "..").request (.make "http://127.0.0.1:8000/api/v1" none) = .ok r ∧
        r.method = .delete ∧ r.url.pathText = "/api/v1/dashboard/" ∧ ¬Stays loopback ".." r := by
  have sent : ((cancel "..").request (.make "http://127.0.0.1:8000/api/v1" none)).toOption.map
      (fun r => (r.method, r.url.pathText)) = some (.delete, "/api/v1/dashboard/") := by
    decide +kernel
  refine ⟨by decide +kernel, by decide, ?_⟩
  cases made : (cancel "..").request (.make "http://127.0.0.1:8000/api/v1" none) with
  | error e =>
    rw [made] at sent
    cases sent
  | ok r =>
    rw [made] at sent
    obtain ⟨method, path⟩ := Prod.mk.inj (Option.some.inj sent)
    refine ⟨r, rfl, method, path, fun stays => ?_⟩
    obtain ⟨segment, text, -⟩ := stays.path
    have queues : trimSlashes loopback.pathText ++ ("/" ++ root ++ "/")
        = "/api/v1/dashboard/queues/" := by decide
    rw [path, ← String.append_assoc, queues] at text
    have long := congrArg (·.toList.length) text
    simp only [String.toList_append, List.length_append] at long
    have short : "/api/v1/dashboard/".toList.length
        < "/api/v1/dashboard/queues/".toList.length := by decide
    omega

end QueueCall

end Liveboard
