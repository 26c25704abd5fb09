import Liveboard.Fetch.Client
import Liveboard.Proofs.Url.Extension

/-!
# Addresses that paths are put behind

A path is put behind the text of an address, without the slashes at its end and
with a slash between. It should end up behind the path of the address. Whether it
does depends on the text alone: if a single slash behind the text is read as a
slash behind the path, every path ends up there, and if not, some do not. So
`Url.Extends` looks at one slash and at no path, and `Url.extends_iff` says of a
text where its folder leads then.

It is not so for a text with a blank at its end, which does not count in the
address, but does in front of a slash, nor for one with a query, a fragment or a
back slash at its end. For the usual texts, without any of these, it is
(`Url.extends_of_isOrdinary`).
-/

namespace Liveboard

open HttpClient (trimSlashes)

namespace Url

/-! ## Paths and texts -/

theorem toList_trimSlashes (s : String) :
    (trimSlashes s).toList = s.toList.rdropWhile (· = '/') := by
  rw [trimSlashes, String.toList_ofList]
  rfl

theorem toList_slash_append (s : String) : ("/" ++ s).toList = '/' :: s.toList := by
  rw [String.toList_append]
  rfl

/-- Nothing but slashes was taken off. -/
theorem exists_trimSlashes (s : String) :
    ∃ k, s = String.ofList ((trimSlashes s).toList ++ List.replicate k '/') := by
  have slashes : ∀ c ∈ s.toList.rtakeWhile (· = '/'), c = '/' :=
    fun c mem => by simpa using List.mem_rtakeWhile_imp mem
  refine ⟨(s.toList.rtakeWhile (· = '/')).length, ?_⟩
  rw [← List.eq_replicate_iff.2 ⟨rfl, slashes⟩, toList_trimSlashes,
    List.rdropWhile_append_rtakeWhile, String.ofList_toList]

/-- **A path is another one with something behind it** if its names are. -/
theorem pathText_eq_iff {u v : Url} {names names' more : List String}
    (path : u.path = .segments names) (path' : v.path = .segments names')
    (slashless : Slashless names) (slashless' : Slashless names') (other : Slashless more) :
    v.pathText = trimSlashes u.pathText ++ String.ofList (written more) ↔
      names' = trimSegments names ++ more := by
  rw [← String.toList_inj, String.toList_append, String.toList_ofList, toList_pathText path',
    toList_trimSlashes, toList_pathText path, rdropWhile_written slashless, ← written_append]
  exact ⟨written_injective slashless' ((slashless_trimSegments slashless).append other),
    congrArg written⟩

/-- **A slash behind the text is a slash behind the path.** -/
def Extends (base : String) (u : Url) : Prop :=
  ∃ v, parse (trimSlashes base ++ "/") = .ok v ∧ v.host = u.host ∧ v.port = u.port ∧
    v.path = (u.appendSegment "").path ∧ v.query = none ∧ v.fragment = none

/-- It is so if the path leads to the folder of the address, whatever is read there. -/
theorem extends_iff {base : String} {u : Url} {host : Except UrlFault Url} {path : List Char}
    {names : List String} (e : Extension (trimSlashes base).toList u host path names) :
    Extends base u ↔
      ∃ w, host = .ok w ∧ w.host = u.host ∧ w.port = u.port ∧
        (∀ c ∈ path, endsPath c = false) ∧ leadsTo path = trimSegments names := by
  have text : trimSlashes base ++ "/" = String.ofList ((trimSlashes base).toList ++ '/' :: []) := by
    rw [← String.toList_inj, String.toList_append, String.toList_ofList, String.toList_ofList]
  have folder : (u.appendSegment "").path = .segments (trimSegments names ++ [""]) := by
    rw [appendSegment, e.segments]
  have reads : ∀ path, resolve path (splitSlashes true (keptEnd [])) = path ++ [""] :=
    resolve_of_isPlain (List.cons_ne_nil [] []) fun part mem => by
      obtain rfl := List.mem_singleton.1 mem
      exact ⟨rfl, rfl⟩
  rw [Extends, text, folder]
  constructor
  · rintro ⟨v, ok, sameHost, samePort, same, query, fragment⟩
    obtain ⟨w, host, rfl⟩ := e.exists_of_ok ok
    have inside := inside_of_withRest query fragment
    rw [e.withRest_eq w inside, reads] at same
    exact ⟨w, host, sameHost, samePort, fun c mem => inside c (List.mem_append_left _ mem),
      List.append_cancel_right (UrlPath.segments.inj same)⟩
  · rintro ⟨w, rfl, sameHost, samePort, inside, leads⟩
    have inside : ∀ c ∈ path ++ '/' :: keptEnd [], endsPath c = false :=
      List.forall_mem_append.2 ⟨inside, List.forall_mem_singleton.2 rfl⟩
    refine ⟨w.withRest true (path ++ '/' :: keptEnd []), e.reads [], sameHost, samePort, ?_⟩
    rw [e.withRest_eq w inside, reads, leads]
    exact ⟨rfl, rfl, rfl⟩

/-! ## The usual texts -/

/-- **A usual text for an address**: no blanks, and no back slash or dots at its end, apart
from slashes. -/
structure IsOrdinary (base : String) : Prop where
  /-- It has no blanks. -/
  solid : ∀ c ∈ base.toList, isBlank c = false
  /-- Its last part is not empty and no dots. -/
  ending : ∀ mark ∈ ["\\", ".", "%2e"],
    ¬mark.toList <:+ (trimSlashes base).toList.map Char.toLower

instance (base : String) : Decidable (IsOrdinary base) :=
  decidable_of_iff
    (base.toList.all (!isBlank ·) = true ∧ ∀ mark ∈ ["\\", ".", "%2e"],
      ¬mark.toList <:+ (trimSlashes base).toList.map Char.toLower)
    ⟨fun ⟨solid, ending⟩ => ⟨by simpa using solid, ending⟩,
      fun h => ⟨by simpa using h.solid, h.ending⟩⟩

/-- Dots end with a dot, however it is spelled. -/
theorem isPlain_of_ending {part : List Char}
    (ending : ∀ mark ∈ [".", "%2e"], ¬mark.toList <:+ part.map Char.toLower) : IsPlain part := by
  have single : ∀ dots ∈ [".", "%2e"], ∃ mark ∈ [".", "%2e"], mark.toList <:+ dots.toList := by
    decide
  have double : ∀ dots ∈ ["..", ".%2e", "%2e.", "%2e%2e"],
      ∃ mark ∈ [".", "%2e"], mark.toList <:+ dots.toList := by
    decide
  constructor
  · by_contra dots
    have dots : String.ofList (part.map Char.toLower) ∈ [".", "%2e"] :=
      List.contains_iff_mem.1 (Bool.eq_true_of_not_eq_false dots)
    obtain ⟨mark, mem, ends⟩ := single _ dots
    exact ending mark mem (by rwa [String.toList_ofList] at ends)
  · by_contra dots
    have dots : String.ofList (part.map Char.toLower) ∈ ["..", ".%2e", "%2e.", "%2e%2e"] :=
      List.contains_iff_mem.1 (Bool.eq_true_of_not_eq_false dots)
    obtain ⟨mark, mem, ends⟩ := double _ dots
    exact ending mark mem (by rwa [String.toList_ofList] at ends)

namespace IsOrdinary

variable {base : String} (ordinary : IsOrdinary base)
include ordinary

/-- What is left without the slashes at its end does not end with any other slash. -/
theorem isSlash_getLast? : ∀ c ∈ (trimSlashes base).toList.getLast?, isSlash c = false := by
  intro c mem
  obtain ⟨before, split⟩ := List.getLast?_eq_some_iff.1 mem
  by_contra slash
  have slash : c = '/' ∨ c = '\\' := by
    simpa [isSlash] using Bool.eq_true_of_not_eq_false slash
  rcases slash with rfl | rfl
  · rw [toList_trimSlashes] at split
    have no := List.rdropWhile_last_not (· = '/') base.toList (by rw [split]; simp)
    simp [split] at no
  · refine ordinary.ending "\\" (.head _) ?_
    rw [split, List.map_append]
    exact List.suffix_append _ _

theorem solid_trimSlashes : ∀ c ∈ (trimSlashes base).toList, isBlank c = false := by
  intro c mem
  rw [toList_trimSlashes] at mem
  exact ordinary.solid c ((List.rdropWhile_prefix _ _).subset mem)

/-- All of it counts. -/
theorem kept_trimSlashes : kept (trimSlashes base).toList = (trimSlashes base).toList := by
  have front : (trimSlashes base).toList.dropWhile isBlank = (trimSlashes base).toList := by
    rw [List.dropWhile_eq_self_iff]
    intro some
    rw [ordinary.solid_trimSlashes _ (List.getElem_mem some)]
    exact Bool.false_ne_true
  rw [kept, front, List.filter_eq_self]
  exact fun c mem => isKept_of_not_isBlank (ordinary.solid_trimSlashes c mem)

/-- **A path at its end leads to a name**, if anywhere. -/
theorem trimSegments_leadsTo {path : List Char} (suffix : path <:+ (trimSlashes base).toList)
    (start : ∀ c ∈ path.head?, isSlash c = true) : trimSegments (leadsTo path) = leadsTo path := by
  have last : ∀ c ∈ path.getLast?, isSlash c = false := by
    intro c mem
    obtain ⟨front, split⟩ := suffix
    refine ordinary.isSlash_getLast? c ?_
    rw [← split, List.getLast?_append, Option.mem_def.1 mem]
    rfl
  cases path with
  | nil => rfl
  | cons c rest =>
    rcases rest.eq_nil_or_concat' with rfl | ⟨before, d, rfl⟩
    · have slash := start c rfl
      rw [last c rfl] at slash
      cases slash
    · have solid : isSlash d = false :=
        last d (by rw [← List.cons_append]; exact List.getLast?_concat)
      let part := (before ++ [d]).rtakeWhile (!isSlash ·)
      obtain ⟨parts, split⟩ := exists_splitSlashes_eq_concat (before ++ [d])
      have some : part ≠ [] := by
        rw [show part = _ from List.rtakeWhile_concat_pos _ _ _ (by rw [solid]; rfl)]
        simp
      have plain : IsPlain part := by
        refine isPlain_of_ending fun mark mem ends => ordinary.ending mark (.tail _ mem) ?_
        have inPart : part <:+ (trimSlashes base).toList :=
          ((List.rtakeWhile_suffix _ _).trans (List.suffix_cons c _)).trans suffix
        exact ends.trans (inPart.map Char.toLower)
      have name : nameOf part ≠ "" := by
        intro empty
        have nothing := congrArg String.toList empty
        rw [nameOf, String.toList_ofList] at nothing
        exact Percent.encode_ne_nil some nothing
      rw [leadsTo, folder, split, List.foldl_append, List.foldl_cons, List.foldl_nil,
        pushSegment_of_isPlain plain, trimSegments_concat name]

end IsOrdinary

/-- **Behind a usual text without query and fragment, a slash is a slash behind the path.** -/
theorem extends_of_isOrdinary {base : String} {u : Url} (ok : parse base = .ok u)
    (web : u.scheme = "http" ∨ u.scheme = "https") (query : u.query = none)
    (fragment : u.fragment = none) (ordinary : IsOrdinary base) : Extends base u := by
  obtain ⟨k, text⟩ := exists_trimSlashes base
  rw [text] at ok
  obtain ⟨host, path, names, e, suffix, own⟩ := exists_extension ok web
  have own := own fun c mem => ordinary.solid_trimSlashes c (List.mem_of_mem_getLast? mem)
  cases whose : host with
  | error fault =>
    rw [whose] at own
    cases own
  | ok w =>
    rw [whose] at own
    have own : u = w.withRest true (path ++ List.replicate k '/') := Except.ok.inj own
    have all := inside_of_withRest (own ▸ query) (own ▸ fragment)
    have inside : ∀ c ∈ path, endsPath c = false := fun c mem => all c (List.mem_append_left _ mem)
    have start := e.start inside
    have names_eq : names = pathNames (path ++ List.replicate k '/') := by
      have segments := e.segments
      rw [own, withRest_of_inside all] at segments
      exact (UrlPath.segments.inj segments).symm
    rw [ordinary.kept_trimSlashes] at suffix
    refine (extends_iff e).2 ⟨w, whose, by rw [own]; rfl, by rw [own]; rfl, inside, ?_⟩
    rw [names_eq, trimSegments_pathNames start, ordinary.trimSegments_leadsTo suffix start]

end Url

end Liveboard
