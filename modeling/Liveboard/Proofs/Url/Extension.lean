import Liveboard.Proofs.Url.Paths

/-!
# An address with something put behind its text

Addresses are made by putting a path behind the text of a base, with a slash between. What
comes out is not always the base with the path behind its own: blanks at the end of a text do
not count, but they do in the middle; behind a question mark everything is a query; and a back
slash at the end of a text is a slash that was not taken off.

Whatever the text is, the user, the host and the port of the address that comes out are the
same for all paths, and so is the folder that they are read in. So a single slash put behind
the text tells where all paths lead. A `Url.Extension` is a text taken apart in this way, into
what is read up to the host and what stands behind it, and every text of a web address is one
(`Url.exists_extension`).
-/

namespace Liveboard.Url

/-! ## What counts -/

/-- Whether a character around a text does not count. -/
def isBlank (c : Char) : Bool :=
  c.toNat ≤ 0x20

/-- Whether a character counts wherever it stands. -/
def isKept (c : Char) : Bool :=
  c ≠ '\t' && c ≠ '\n' && c ≠ '\r'

/-- **What counts of a text** that something follows. -/
def kept (cs : List Char) : List Char :=
  (cs.dropWhile isBlank).filter isKept

/-- **What counts of the end of a text.** -/
def keptEnd (cs : List Char) : List Char :=
  (cs.rdropWhile isBlank).filter isKept

theorem tidy_ofList (cs : List Char) :
    tidy (String.ofList cs) = ((cs.dropWhile isBlank).rdropWhile isBlank).filter isKept := by
  rw [tidy, String.toList_ofList]
  rfl

theorem isKept_of_not_isBlank {c : Char} (solid : isBlank c = false) : isKept c = true := by
  by_contra no
  rcases (show c = '\t' ∨ c = '\n' ∨ c = '\r' by
    simpa [isKept, or_iff_not_imp_left] using no) with rfl | rfl | rfl <;> cases solid

/-- Blanks in front of a character that counts do not end a text. -/
theorem rdropWhile_append_cons {α : Type} {p : α → Bool} {a : α} (solid : p a = false)
    (as bs : List α) : (as ++ a :: bs).rdropWhile p = as ++ a :: bs.rdropWhile p := by
  induction bs using List.reverseRecOn with
  | nil => exact List.rdropWhile_concat_neg p as a (by simp [solid])
  | append_singleton bs b ih =>
    have assoc : as ++ a :: (bs ++ [b]) = (as ++ a :: bs) ++ [b] := by simp
    rw [assoc]
    cases own : p b with
    | true => rw [List.rdropWhile_concat_pos p _ b own, ih, List.rdropWhile_concat_pos p _ b own]
    | false =>
      have no : ¬p b = true := by simp [own]
      rw [List.rdropWhile_concat_neg p _ b no, List.rdropWhile_concat_neg p _ b no, ← assoc]

/-- **What counts of a text with something behind it.** -/
theorem tidy_append (cs rest : List Char) :
    tidy (String.ofList (cs ++ '/' :: rest)) = kept cs ++ '/' :: keptEnd rest := by
  have solid : isBlank '/' = false := rfl
  have front : (cs ++ '/' :: rest).dropWhile isBlank = cs.dropWhile isBlank ++ '/' :: rest :=
    (takeWhile_append_of_head? (fun c mem => by
      obtain rfl := Option.some.inj mem
      exact solid) cs).2
  rw [tidy_ofList, front, rdropWhile_append_cons solid, List.filter_append,
    List.filter_cons_of_pos rfl]
  rfl

theorem keptEnd_replicate (k : Nat) : keptEnd (List.replicate k '/') = List.replicate k '/' := by
  have all : ∀ c ∈ List.replicate k '/', isKept c = true := by
    intro c mem
    obtain rfl := List.eq_of_mem_replicate mem
    rfl
  have last : (List.replicate k '/').rdropWhile isBlank = List.replicate k '/' := by
    cases k with
    | zero => rfl
    | succ k =>
      rw [List.replicate_succ']
      exact List.rdropWhile_concat_neg _ _ _ (by decide)
  rw [keptEnd, last, List.filter_eq_self.2 all]

theorem keptEnd_append (cs rest : List Char) :
    keptEnd (cs ++ '/' :: rest) = cs.filter isKept ++ '/' :: keptEnd rest := by
  rw [keptEnd, rdropWhile_append_cons rfl, List.filter_append, List.filter_cons_of_pos rfl, keptEnd]

/-- All of a text counts if every character does and the last is no blank. -/
theorem keptEnd_eq_self_iff {cs : List Char} :
    keptEnd cs = cs ↔ (∀ c ∈ cs, isKept c = true) ∧ ∀ c ∈ cs.getLast?, isBlank c = false := by
  constructor
  · intro same
    have solid : cs.rdropWhile isBlank = cs := by
      refine (List.rdropWhile_prefix _ _).eq_of_length_le ?_
      have short := List.length_filter_le isKept (cs.rdropWhile isBlank)
      rwa [show (cs.rdropWhile isBlank).filter isKept = cs from same] at short
    refine ⟨fun c mem => ?_, fun c mem => ?_⟩
    · rw [← same] at mem
      exact (List.mem_filter.1 mem).2
    · obtain ⟨before, rfl⟩ := List.getLast?_eq_some_iff.1 mem
      by_contra blank
      rw [List.rdropWhile_concat_pos _ _ _ (by simpa using blank)] at solid
      have short := (List.rdropWhile_prefix isBlank before).length_le
      rw [solid, List.length_append] at short
      exact absurd short (by simp)
  · rintro ⟨kept, solid⟩
    have whole : cs.rdropWhile isBlank = cs := by
      rcases cs.eq_nil_or_concat' with rfl | ⟨before, c, rfl⟩
      · rfl
      · have no : ¬isBlank c = true := by simp [solid c (by simp)]
        exact List.rdropWhile_concat_neg _ _ _ no
    rw [keptEnd, whole, List.filter_eq_self.2 kept]

/-- What is left of a text if nothing follows is a part of what is left if something does,
and all of it if the text does not end with a blank. -/
theorem exists_kept_eq (cs : List Char) :
    ∃ blanks, kept cs = tidy (String.ofList cs) ++ blanks ∧
      ((∀ c ∈ cs.getLast?, isBlank c = false) → blanks = []) := by
  refine ⟨((cs.dropWhile isBlank).rtakeWhile isBlank).filter isKept, ?_, fun solid => ?_⟩
  · rw [tidy_ofList, ← List.filter_append, List.rdropWhile_append_rtakeWhile, kept]
  · rcases (cs.dropWhile isBlank).eq_nil_or_concat' with nil | ⟨before, c, concat⟩
    · rw [nil]
      rfl
    · have last : cs.getLast? = some c := by
        rw [← List.takeWhile_append_dropWhile (p := isBlank) (l := cs), concat,
          ← List.append_assoc, List.getLast?_concat]
      have no : ¬isBlank c = true := by simp [solid c last]
      rw [concat, List.rtakeWhile_concat_neg _ _ _ no]
      rfl

/-! ## Addresses -/

/-- The text of a base, with and without the slashes at its end. -/
theorem exists_tidy_eq (cs : List Char) (k : Nat) :
    ∃ front blanks, kept cs = front ++ blanks ∧
      tidy (String.ofList (cs ++ List.replicate k '/')) = front ++ List.replicate k '/' ∧
      ((∀ c ∈ cs.getLast?, isBlank c = false) → blanks = []) := by
  cases k with
  | zero =>
    obtain ⟨blanks, split, none⟩ := exists_kept_eq cs
    refine ⟨_, blanks, split, ?_, none⟩
    rw [List.replicate_zero, List.append_nil, List.append_nil]
  | succ k =>
    refine ⟨kept cs, [], (List.append_nil _).symm, ?_, fun _ => rfl⟩
    rw [List.replicate_succ, tidy_append, keptEnd_replicate]

/-- What begins with no slash begins before the slashes at the end. -/
theorem exists_eq_of_append_replicate {front before after : List Char} {c : Char} {k : Nat}
    (split : front ++ List.replicate k '/' = before ++ c :: after) (noSlash : isSlash c = false) :
    ∃ middle, front = before ++ c :: middle ∧ after = middle ++ List.replicate k '/' := by
  have other : c ∉ List.replicate k '/' := by
    intro mem
    obtain rfl := List.eq_of_mem_replicate mem
    cases noSlash
  rcases List.append_eq_append_iff.1 split with ⟨as, -, slashes⟩ | ⟨bs, front, rest⟩
  · exact absurd (slashes ▸ List.mem_append_right as List.mem_cons_self) other
  · cases bs with
    | nil =>
      have slashes : c :: after = List.replicate k '/' := rest
      exact absurd (slashes ▸ List.mem_cons_self) other
    | cons b middle =>
      obtain ⟨rfl, rfl⟩ := List.cons.inj rest
      exact ⟨middle, front, rfl⟩

/-- The path of a web address is made of names. -/
theorem exists_names {cs : List Char} {u : Url} (ok : parseTidied cs = .ok u)
    (web : u.scheme = "http" ∨ u.scheme = "https") :
    ∃ names, u.path = .segments names ∧ Slashless names := by
  obtain ⟨before, c, after, rfl, -, reads⟩ := exists_authority ok web
  rw [reads] at ok
  obtain ⟨-, -, -, v, rest, rfl⟩ := parseAuthority_ok (isSpecial_of_web web) ok
  exact ⟨_, path_withRest v rest, slashless_pathNames _⟩

/-- A port is named only if it is not the one of the scheme. -/
theorem port_ne_default {cs : List Char} {u : Url} (ok : parseTidied cs = .ok u)
    (web : u.scheme = "http" ∨ u.scheme = "https") : u.port ≠ defaultPort? u.scheme := by
  obtain ⟨before, c, after, rfl, -, reads⟩ := exists_authority ok web
  rw [reads] at ok
  obtain ⟨-, -, other, -⟩ := parseAuthority_ok (isSpecial_of_web web) ok
  intro same
  rcases web with scheme | scheme
  · exact other 80 (same.trans (scheme ▸ rfl)) (scheme ▸ rfl)
  · exact other 443 (same.trans (scheme ▸ rfl)) (scheme ▸ rfl)

/-- **How the text of an address is extended.** Whatever is put behind it, the address that
comes out begins like `host`, and goes on with the path `path` and what was put behind. -/
structure Extension (cs : List Char) (u : Url) (host : Except UrlFault Url) (path : List Char)
    (names : List String) : Prop where
  /-- The names of the address itself. -/
  segments : u.path = .segments names
  /-- They are names. -/
  slashless : Slashless names
  /-- The scheme is the one of the address, and there is a host. -/
  host_ok : ∀ v, host = .ok v → v.scheme = u.scheme ∧ v.host.isSome = true
  /-- The path follows a host. -/
  opens : Opens path
  /-- What is put behind is put behind the path. -/
  reads : ∀ rest, parse (String.ofList (cs ++ '/' :: rest))
    = host.map (·.withRest true (path ++ '/' :: keptEnd rest))

/-- **Web addresses are extended so.** If the text does not end with a blank, the address
itself begins like the ones it is extended to. -/
theorem exists_extension {cs : List Char} {k : Nat} {u : Url}
    (ok : parse (String.ofList (cs ++ List.replicate k '/')) = .ok u)
    (web : u.scheme = "http" ∨ u.scheme = "https") :
    ∃ host path names, Extension cs u host path names ∧ path <:+ kept cs ∧
      ((∀ c ∈ cs.getLast?, isBlank c = false) →
        .ok u = host.map (·.withRest true (path ++ List.replicate k '/'))) := by
  obtain ⟨front, blanks, split, text, none⟩ := exists_tidy_eq cs k
  rw [parse_eq, text] at ok
  obtain ⟨names, segments, slashless⟩ := exists_names ok web
  obtain ⟨before, c, after, whole, noSlash, reads⟩ := exists_authority ok web
  obtain ⟨middle, rfl, rfl⟩ := exists_eq_of_append_replicate whole noSlash
  have special := isSpecial_of_web web
  obtain ⟨inside, path, body, inHost, opens⟩ := exists_opens (c :: middle ++ blanks)
  have kept_eq : kept cs = before ++ (inside ++ path) := by rw [split, ← body, List.append_assoc]
  -- what is read of any text that begins like this one
  have extend : ∀ rest, Opens rest → parseTidied (before ++ (inside ++ path ++ rest))
      = (parseAuthority u.scheme inside).map (·.withRest true (path ++ rest)) := by
    intro rest later
    rw [← parseAuthority_append special inHost (opens.append later), ← List.append_assoc inside,
      ← body]
    exact reads (middle ++ blanks ++ rest)
  refine ⟨parseAuthority u.scheme inside, path, names, ⟨segments, slashless, fun v ok => ?_, opens,
    fun rest => ?_⟩, ?_, fun solid => ?_⟩
  · obtain ⟨scheme, host, -⟩ := parseAuthority_ok special ok
    exact ⟨scheme, host⟩
  · rw [parse_eq, tidy_append, kept_eq, List.append_assoc, extend _ (opens_cons rfl _)]
  · rw [kept_eq, ← List.append_assoc]
    exact List.suffix_append _ _
  · have slashes : Opens (List.replicate k '/') := fun c mem => by
      rw [List.eq_of_mem_replicate (List.mem_of_mem_head? mem)]
      rfl
    rw [← extend _ slashes, ← ok, ← body, none solid, List.append_nil, ← List.append_assoc]

namespace Extension

variable {cs path : List Char} {u v : Url} {host : Except UrlFault Url} {names : List String}
  (e : Extension cs u host path names)
include e

/-- Every address that comes out begins like the others. -/
theorem exists_of_ok {rest : List Char} (ok : parse (String.ofList (cs ++ '/' :: rest)) = .ok v) :
    ∃ w, host = .ok w ∧ v = w.withRest true (path ++ '/' :: keptEnd rest) := by
  rw [e.reads] at ok
  cases whose : host with
  | error fault =>
    rw [whose] at ok
    cases ok
  | ok w =>
    rw [whose] at ok
    exact ⟨w, rfl, (Except.ok.inj ok).symm⟩

theorem start (inside : ∀ c ∈ path, endsPath c = false) : ∀ c ∈ path.head?, isSlash c = true := by
  intro c mem
  have other := inside c (List.mem_of_mem_head? mem)
  rcases endsAuthority_iff.1 (e.opens c mem) with rfl | rfl | rfl | rfl
  · rfl
  · cases other
  · cases other
  · rfl

/-- **What is put behind is read in the folder that the path leads to**, unless there is a
query or a fragment. -/
theorem withRest_eq (w : Url) {rest : List Char}
    (inside : ∀ c ∈ path ++ '/' :: keptEnd rest, endsPath c = false) :
    w.withRest true (path ++ '/' :: keptEnd rest)
      = { w with
          path := .segments (resolve (leadsTo path) (splitSlashes true (keptEnd rest)))
          query := none
          fragment := none } := by
  rw [withRest_of_inside inside,
    pathNames_append (e.start fun c mem => inside c (List.mem_append_left _ mem))]

end Extension

end Liveboard.Url
