import Mathlib.Data.List.DropRight
import Liveboard.Proofs.Url.Authority
import Liveboard.Proofs.Url.Escapes

/-!
# Where a path leads

The path of a web address is read part by part: a part becomes a name at the end of the path,
unless it is dots. What is put behind a path with a slash between is read after it, in the
folder that the path leads to (`Url.segmentsOf_append`). The folder of a path is not quite the
path: dots at the end of a path name a folder, and leave an empty name there if nothing
follows, and none if something does. So the two are the same only up to empty names at the end
(`Url.trimSegments_segmentsOf`).

Names hold no slash. So a path is known from its written form (`Url.written_injective`), and
the slashes at the end of the one are the empty names at the end of the other.
-/

namespace Liveboard.Url

/-! ## Names -/

/-- **How names are written**: each after a slash. -/
def written (names : List String) : List Char :=
  names.flatMap fun name => '/' :: name.toList

theorem toList_pathText {u : Url} {names : List String} (path : u.path = .segments names) :
    u.pathText.toList = written names := by
  rw [pathText, path]
  dsimp only
  rw [String.toList_join, List.flatMap_map, written]
  refine List.flatMap_congr fun name _ => ?_
  rw [String.toList_append]
  rfl

theorem written_append (as bs : List String) : written (as ++ bs) = written as ++ written bs :=
  List.flatMap_append

theorem written_cons (a : String) (as : List String) :
    written (a :: as) = '/' :: (a.toList ++ written as) :=
  rfl

/-- **Names hold no slash.** -/
def Slashless (names : List String) : Prop :=
  ∀ name ∈ names, '/' ∉ name.toList

theorem Slashless.append {as bs : List String} (ha : Slashless as) (hb : Slashless bs) :
    Slashless (as ++ bs) :=
  fun _ mem => (List.mem_append.1 mem).elim (ha _) (hb _)

/-- A name ends where the next one begins. -/
theorem takeWhile_append_written {a : List Char} (noSlash : '/' ∉ a) (as : List String) :
    (a ++ written as).takeWhile (· ≠ '/') = a := by
  have all : ∀ c ∈ a, decide (c ≠ '/') = true :=
    fun c mem => decide_eq_true fun same => noSlash (same ▸ mem)
  rw [List.takeWhile_append_of_pos all]
  cases as with
  | nil => rw [written, List.flatMap_nil, List.takeWhile_nil, List.append_nil]
  | cons b bs =>
    rw [written_cons, List.takeWhile_cons_of_neg (by simp), List.append_nil]

/-- **Names are known from their written form.** -/
theorem written_injective {as bs : List String} (ha : Slashless as) (hb : Slashless bs)
    (same : written as = written bs) : as = bs := by
  induction as generalizing bs with
  | nil =>
    cases bs with
    | nil => rfl
    | cons b bs => cases same
  | cons a as ih =>
    cases bs with
    | nil => cases same
    | cons b bs =>
      obtain ⟨noSlash, ha⟩ := List.forall_mem_cons.1 ha
      obtain ⟨noSlash', hb⟩ := List.forall_mem_cons.1 hb
      rw [written_cons, written_cons, List.cons.injEq, eq_self, true_and] at same
      have first : a.toList = b.toList := by
        rw [← takeWhile_append_written noSlash as, same, takeWhile_append_written noSlash']
      rw [first, List.append_cancel_left_eq] at same
      rw [String.toList_inj.1 first, ih ha hb same]

/-! ## Empty names at the end -/

theorem trimSegments_eq (names : List String) :
    trimSegments names = names.rdropWhile (·.isEmpty) :=
  rfl

@[simp]
theorem trimSegments_concat_empty (names : List String) :
    trimSegments (names ++ [""]) = trimSegments names := by
  rw [trimSegments_eq, List.rdropWhile_concat_pos _ _ _ rfl, trimSegments_eq]

theorem trimSegments_append_replicate (names : List String) (k : Nat) :
    trimSegments (names ++ List.replicate k "") = trimSegments names := by
  induction k with
  | zero => rw [List.replicate_zero, List.append_nil]
  | succ k ih =>
    rw [List.replicate_succ', ← List.append_assoc, trimSegments_concat_empty, ih]

theorem trimSegments_concat {names : List String} {name : String} (some : name ≠ "") :
    trimSegments (names ++ [name]) = names ++ [name] :=
  List.rdropWhile_concat_neg _ _ _ (by simpa using some)

theorem slashless_trimSegments {names : List String} (slashless : Slashless names) :
    Slashless (trimSegments names) :=
  fun name mem => slashless name ((List.rdropWhile_prefix _ _).subset mem)

/-- **Slashes at the end of a path are empty names at its end.** -/
theorem rdropWhile_written {names : List String} (slashless : Slashless names) :
    (written names).rdropWhile (· = '/') = written (trimSegments names) := by
  induction names using List.reverseRecOn with
  | nil => rfl
  | append_singleton names name ih =>
    have single : written [name] = '/' :: name.toList := by
      rw [written_cons, written, List.flatMap_nil, List.append_nil]
    rw [written_append, single]
    rcases name.toList.eq_nil_or_concat' with nil | ⟨cs, c, concat⟩
    · obtain rfl : name = "" := String.toList_eq_nil_iff.1 nil
      rw [nil, List.rdropWhile_concat_pos _ _ _ (by simp), trimSegments_concat_empty]
      exact ih fun n mem => slashless n (List.mem_append_left _ mem)
    · have noSlash : c ≠ '/' := by
        rintro rfl
        exact slashless name (by simp) (by rw [concat]; simp)
      have some : name ≠ "" := by
        rintro rfl
        simp at concat
      rw [concat, ← List.cons_append, ← List.append_assoc,
        List.rdropWhile_concat_neg _ _ _ (by simpa using noSlash), trimSegments_concat some,
        written_append, single, concat, ← List.cons_append, ← List.append_assoc]

/-! ## Parts -/

theorem splitSlashes_cons_slash {c : Char} (slash : isSlash c = true) (cs : List Char) :
    splitSlashes true (c :: cs) = [] :: splitSlashes true cs :=
  if_pos slash

theorem splitSlashes_cons {c : Char} (other : isSlash c = false) {cs part : List Char}
    {parts : List (List Char)} (rest : splitSlashes true cs = part :: parts) :
    splitSlashes true (c :: cs) = (c :: part) :: parts := by
  have solid : ¬(decide (c = '/') || (true && decide (c = '\\'))) = true := by
    rw [show (decide (c = '/') || (true && decide (c = '\\'))) = false from other]
    exact Bool.false_ne_true
  rw [splitSlashes, List.foldr_cons, if_neg solid, ← splitSlashes, rest]

theorem splitSlashes_ne_nil (cs : List Char) : splitSlashes true cs ≠ [] := by
  induction cs with
  | nil => exact List.cons_ne_nil _ _
  | cons c cs ih =>
    cases slash : isSlash c with
    | true =>
      rw [splitSlashes_cons_slash slash]
      exact List.cons_ne_nil _ _
    | false =>
      obtain ⟨part, parts, rest⟩ := List.exists_cons_of_ne_nil ih
      rw [splitSlashes_cons slash rest]
      exact List.cons_ne_nil _ _

/-- **The parts before and after a slash.** -/
theorem splitSlashes_append (as : List Char) {c : Char} (slash : isSlash c = true)
    (bs : List Char) :
    splitSlashes true (as ++ c :: bs) = splitSlashes true as ++ splitSlashes true bs := by
  induction as with
  | nil => exact splitSlashes_cons_slash slash bs
  | cons a as ih =>
    cases own : isSlash a with
    | true =>
      rw [List.cons_append, splitSlashes_cons_slash own, splitSlashes_cons_slash own, ih,
        List.cons_append]
    | false =>
      obtain ⟨part, parts, rest⟩ := List.exists_cons_of_ne_nil (splitSlashes_ne_nil as)
      rw [rest] at ih
      rw [List.cons_append, splitSlashes_cons own rest, splitSlashes_cons own ih]
      rfl

/-- What has no slash is one part. -/
theorem splitSlashes_of_not_mem {cs : List Char} (none : ∀ c ∈ cs, isSlash c = false) :
    splitSlashes true cs = [cs] := by
  induction cs with
  | nil => rfl
  | cons c cs ih =>
    obtain ⟨first, later⟩ := List.forall_mem_cons.1 none
    exact splitSlashes_cons first (ih later)

theorem slash_not_mem_of_mem_splitSlashes {cs part : List Char}
    (mem : part ∈ splitSlashes true cs) : ∀ c ∈ part, isSlash c = false := by
  induction cs generalizing part with
  | nil =>
    obtain rfl := List.mem_singleton.1 mem
    exact List.forall_mem_nil _
  | cons c cs ih =>
    cases slash : isSlash c with
    | true =>
      rw [splitSlashes_cons_slash slash] at mem
      rcases List.mem_cons.1 mem with rfl | mem
      · exact List.forall_mem_nil _
      · exact ih mem
    | false =>
      obtain ⟨first, parts, rest⟩ := List.exists_cons_of_ne_nil (splitSlashes_ne_nil cs)
      rw [splitSlashes_cons slash rest] at mem
      rw [rest] at ih
      rcases List.mem_cons.1 mem with rfl | mem
      · exact List.forall_mem_cons.2 ⟨slash, ih List.mem_cons_self⟩
      · exact ih (List.mem_cons_of_mem _ mem)

/-- Parts are taken from the text. -/
theorem sublist_of_mem_splitSlashes {cs part : List Char} (mem : part ∈ splitSlashes true cs) :
    part.Sublist cs := by
  induction cs generalizing part with
  | nil =>
    obtain rfl := List.mem_singleton.1 mem
    exact List.Sublist.refl _
  | cons c cs ih =>
    cases slash : isSlash c with
    | true =>
      rw [splitSlashes_cons_slash slash] at mem
      rcases List.mem_cons.1 mem with rfl | mem
      · exact List.nil_sublist _
      · exact (ih mem).cons _
    | false =>
      obtain ⟨first, parts, rest⟩ := List.exists_cons_of_ne_nil (splitSlashes_ne_nil cs)
      rw [splitSlashes_cons slash rest] at mem
      rw [rest] at ih
      rcases List.mem_cons.1 mem with rfl | mem
      · exact (ih List.mem_cons_self).cons_cons _
      · exact (ih (List.mem_cons_of_mem _ mem)).cons _

/-- The last part reaches back to the last slash. -/
theorem exists_splitSlashes_eq_concat (cs : List Char) :
    ∃ before, splitSlashes true cs = before ++ [cs.rtakeWhile (!isSlash ·)] := by
  have split : cs.rdropWhile (!isSlash ·) ++ cs.rtakeWhile (!isSlash ·) = cs :=
    List.rdropWhile_append_rtakeWhile
  have last : ∀ c ∈ cs.rtakeWhile (!isSlash ·), isSlash c = false := fun c mem => by
    simpa using List.mem_rtakeWhile_imp mem
  rcases (cs.rdropWhile (!isSlash ·)).eq_nil_or_concat' with nil | ⟨before, c, concat⟩
  · rw [nil, List.nil_append] at split
    rw [split] at last
    exact ⟨[], by rw [splitSlashes_of_not_mem last, split, List.nil_append]⟩
  · have slash : isSlash c = true := by
      have no := List.rdropWhile_last_not (!isSlash ·) cs (by rw [concat]; simp)
      simpa [concat] using no
    refine ⟨splitSlashes true before, ?_⟩
    rw [concat, List.append_assoc, List.singleton_append] at split
    rw [← splitSlashes_of_not_mem last, ← splitSlashes_append before slash, split]

/-! ## Folders -/

/-- A part as a name. -/
def nameOf (part : List Char) : String :=
  String.ofList (Percent.encode Percent.path part)

/-- What has no back slash is written as it is, apart from escapes. -/
theorem written_map_nameOf {cs : List Char} (noBack : '\\' ∉ cs) :
    written ((splitSlashes true cs).map nameOf) = '/' :: Percent.encode Percent.path cs := by
  induction cs with
  | nil => rfl
  | cons c cs ih =>
    obtain ⟨first, later⟩ := not_or.1 (List.mem_cons.not.1 noBack)
    have ih := ih later
    rw [Percent.encode_cons]
    by_cases slash : c = '/'
    · subst slash
      rw [splitSlashes_cons_slash rfl, List.map_cons, written_cons, ih]
      rfl
    · have other : isSlash c = false := by simp [isSlash, slash, Ne.symm first]
      obtain ⟨part, parts, rest⟩ := List.exists_cons_of_ne_nil (splitSlashes_ne_nil cs)
      rw [rest, List.map_cons, written_cons, List.cons.injEq, eq_self, true_and] at ih
      rw [splitSlashes_cons other rest, List.map_cons, written_cons, ← ih, nameOf, nameOf,
        String.toList_ofList, String.toList_ofList, Percent.encode_cons, List.append_assoc]

/-- **A part that is no dots** is a name. -/
def IsPlain (part : List Char) : Prop :=
  isSingleDot part = false ∧ isDoubleDot part = false

instance (part : List Char) : Decidable (IsPlain part) :=
  inferInstanceAs (Decidable (_ ∧ _))

theorem pushSegment_of_isPlain {part : List Char} (plain : IsPlain part) (isLast : Bool)
    (path : List String) : pushSegment isLast path part = path ++ [nameOf part] := by
  rw [pushSegment, if_neg (by rw [plain.2]; simp), if_neg (by rw [plain.1]; simp), nameOf]

theorem slashless_nameOf {part : List Char} (noSlash : ∀ c ∈ part, isSlash c = false) :
    '/' ∉ (nameOf part).toList := by
  rw [nameOf, String.toList_ofList]
  exact Percent.slash_not_mem_encode fun mem => by simpa [isSlash] using noSlash _ mem

theorem slashless_pushSegment (isLast : Bool) {path : List String} (slashless : Slashless path)
    {part : List Char} (noSlash : ∀ c ∈ part, isSlash c = false) :
    Slashless (pushSegment isLast path part) := by
  have empty : Slashless [""] := by
    rintro _ mem
    obtain rfl := List.mem_singleton.1 mem
    simp
  have shorter : Slashless path.dropLast :=
    fun name mem => slashless name (List.mem_of_mem_dropLast mem)
  unfold pushSegment
  split_ifs
  · exact shorter.append empty
  · exact shorter
  · exact slashless.append empty
  · exact slashless
  · refine slashless.append ?_
    rintro _ mem
    obtain rfl := List.mem_singleton.1 mem
    exact slashless_nameOf noSlash

/-- **Where a path leads.** -/
def folder (cs : List Char) : List String :=
  (splitSlashes true cs).foldl (pushSegment false) []

/-- **What is read of the parts of a path** after some names. -/
def resolve (path : List String) (parts : List (List Char)) : List String :=
  pushSegment true (parts.dropLast.foldl (pushSegment false) path) (parts.getLastD [])

/-- **What is put behind a path** is read in the folder that the path leads to. -/
theorem segmentsOf_append (as : List Char) {c : Char} (slash : isSlash c = true)
    (bs : List Char) :
    segmentsOf true (as ++ c :: bs) = resolve (folder as) (splitSlashes true bs) := by
  have some := splitSlashes_ne_nil bs
  rw [segmentsOf, splitSlashes_append as slash, resolve, folder,
    List.dropLast_append_of_ne_nil some, List.foldl_append, List.getLastD_eq_getLast?,
    List.getLastD_eq_getLast?, List.getLast?_append, List.getLast?_eq_some_getLast some,
    Option.some_or]

theorem slashless_foldl {path : List String} (slashless : Slashless path)
    {parts : List (List Char)} (noSlash : ∀ part ∈ parts, ∀ c ∈ part, isSlash c = false) :
    Slashless (parts.foldl (pushSegment false) path) := by
  induction parts generalizing path with
  | nil => exact slashless
  | cons part parts ih =>
    obtain ⟨first, later⟩ := List.forall_mem_cons.1 noSlash
    exact ih (slashless_pushSegment false slashless first) later

theorem slashless_folder (cs : List Char) : Slashless (folder cs) :=
  slashless_foldl (fun _ no => by cases no) fun _ => slash_not_mem_of_mem_splitSlashes

theorem slashless_resolve {path : List String} (slashless : Slashless path) (cs : List Char) :
    Slashless (resolve path (splitSlashes true cs)) := by
  have each : ∀ part ∈ splitSlashes true cs, ∀ c ∈ part, isSlash c = false :=
    fun _ => slash_not_mem_of_mem_splitSlashes
  have last : (splitSlashes true cs).getLastD [] ∈ splitSlashes true cs := by
    have some := splitSlashes_ne_nil cs
    rw [List.getLastD_eq_getLast?, List.getLast?_eq_some_getLast some, Option.getD_some]
    exact List.getLast_mem some
  exact slashless_pushSegment true
    (slashless_foldl slashless fun part mem => each part (List.mem_of_mem_dropLast mem))
    (each _ last)

/-- Parts that are no dots are names. -/
theorem foldl_pushSegment {parts : List (List Char)} (plain : ∀ part ∈ parts, IsPlain part)
    (path : List String) :
    parts.foldl (pushSegment false) path = path ++ parts.map nameOf := by
  induction parts generalizing path with
  | nil => exact (List.append_nil _).symm
  | cons part parts ih =>
    obtain ⟨first, later⟩ := List.forall_mem_cons.1 plain
    rw [List.foldl_cons, pushSegment_of_isPlain first, ih later, List.append_assoc, List.map_cons,
      List.singleton_append]

/-- **Parts that are no dots are read as they are.** -/
theorem resolve_of_isPlain {parts : List (List Char)} (some : parts ≠ [])
    (plain : ∀ part ∈ parts, IsPlain part) (path : List String) :
    resolve path parts = path ++ parts.map nameOf := by
  obtain ⟨before, last, rfl⟩ := (List.eq_nil_or_concat' parts).resolve_left some
  rw [resolve, List.dropLast_concat, List.getLastD_concat,
    foldl_pushSegment fun part mem => plain part (List.mem_append_left _ mem),
    pushSegment_of_isPlain (plain last (by simp)), List.append_assoc, List.map_append]
  rfl

/-- Parts before the last that are no dots belong to the folder. -/
theorem resolve_append {as parts : List (List Char)} (plain : ∀ part ∈ as, IsPlain part)
    (some : parts ≠ []) (path : List String) :
    resolve path (as ++ parts) = resolve (path ++ as.map nameOf) parts := by
  rw [resolve, List.dropLast_append_of_ne_nil some, List.foldl_append, foldl_pushSegment plain,
    List.getLastD_eq_getLast?, List.getLast?_append, List.getLast?_eq_some_getLast some,
    Option.some_or, ← List.getLast?_eq_some_getLast some, ← List.getLastD_eq_getLast?]
  rfl

/-- Nothing but an empty name tells a path from its folder. -/
theorem trimSegments_pushSegment (path : List String) (part : List Char) :
    trimSegments (pushSegment true path part) = trimSegments (pushSegment false path part) := by
  unfold pushSegment
  split_ifs <;> simp

/-- **A path and its folder** are the same up to empty names at the end. -/
theorem trimSegments_segmentsOf (cs : List Char) (k : Nat) :
    trimSegments (segmentsOf true (cs ++ List.replicate k '/')) = trimSegments (folder cs) := by
  cases k with
  | zero =>
    obtain ⟨before, last, split⟩ :=
      (List.eq_nil_or_concat' _).resolve_left (splitSlashes_ne_nil cs)
    rw [List.replicate_zero, List.append_nil, segmentsOf, folder, split, List.dropLast_concat,
      List.getLastD_concat, List.foldl_append, List.foldl_cons, List.foldl_nil,
      trimSegments_pushSegment]
  | succ k =>
    have slashes : ∀ k, splitSlashes true (List.replicate k '/') = List.replicate (k + 1) [] := by
      intro k
      induction k with
      | zero => rfl
      | succ k ih => rw [List.replicate_succ, splitSlashes_cons_slash rfl, ih]; rfl
    have plain : ∀ part ∈ List.replicate (k + 1) ([] : List Char), IsPlain part := by
      intro part mem
      obtain rfl := List.eq_of_mem_replicate mem
      exact ⟨rfl, rfl⟩
    rw [List.replicate_succ, segmentsOf_append cs rfl, slashes,
      resolve_of_isPlain (by simp) plain, List.map_replicate,
      show nameOf [] = "" from rfl, trimSegments_append_replicate]

/-! ## Paths after a host -/

/-- **The names of a path that stands after a host.** -/
def pathNames : List Char → List String
  | [] => segmentsOf true []
  | c :: rest => if isSlash c then segmentsOf true rest else segmentsOf true (c :: rest)

/-- **Where a path that stands after a host leads.** -/
def leadsTo : List Char → List String
  | [] => []
  | _ :: rest => folder rest

theorem slashless_leadsTo (path : List Char) : Slashless (leadsTo path) := by
  cases path with
  | nil => exact fun _ no => by cases no
  | cons c path => exact slashless_folder path

theorem path_withRest (u : Url) (cs : List Char) :
    (u.withRest true cs).path = .segments (pathNames (cs.takeWhile (!endsPath ·))) := by
  unfold withRest
  cases cs.takeWhile (!endsPath ·) <;> rfl

/-- Behind a query or a fragment nothing changes the path. -/
theorem path_withRest_append {path : List Char} (ends : ∃ c ∈ path, endsPath c = true) (w : Url)
    (rest : List Char) : (w.withRest true (path ++ rest)).path = (w.withRest true path).path := by
  have part : (path.takeWhile (!endsPath ·)).length ≠ path.length := by
    intro long
    obtain ⟨c, mem, ends⟩ := ends
    have whole := (List.takeWhile_prefix (!endsPath ·)).eq_of_length long
    simpa [ends] using List.takeWhile_eq_self_iff.1 whole c mem
  rw [path_withRest, path_withRest, List.takeWhile_append, if_neg part]

/-- A rest without marks of a query or a fragment is all path. -/
theorem withRest_of_inside {cs : List Char} (inside : ∀ c ∈ cs, endsPath c = false) (u : Url) :
    u.withRest true cs
      = { u with path := .segments (pathNames cs), query := none, fragment := none } := by
  have all : ∀ c ∈ cs, (!endsPath c) = true := fun c mem => by rw [inside c mem]; rfl
  have path := path_withRest u cs
  unfold withRest at path ⊢
  dsimp only at path ⊢
  rw [path, List.dropWhile_eq_nil_iff.2 all, List.takeWhile_eq_self_iff.2 all]
  rfl

/-- Where there is no query and no fragment, the rest holds none of their marks. -/
theorem inside_of_withRest {cs : List Char} {u : Url} (query : (u.withRest true cs).query = none)
    (fragment : (u.withRest true cs).fragment = none) : ∀ c ∈ cs, endsPath c = false := by
  have query : (splitTail true (cs.dropWhile (!endsPath ·))).1 = none := query
  have fragment : (splitTail true (cs.dropWhile (!endsPath ·))).2 = none := fragment
  have head := List.head?_dropWhile_not (!endsPath ·) cs
  cases rest : cs.dropWhile (!endsPath ·) with
  | nil =>
    intro c mem
    simpa using List.dropWhile_eq_nil_iff.1 rest c mem
  | cons c cs =>
    rw [rest] at query fragment head
    have ends : c = '?' ∨ c = '#' := or_iff_not_imp_left.2 (by simpa [endsPath] using head)
    rcases ends with rfl | rfl
    · cases query
    · cases fragment

theorem slashless_pathNames (cs : List Char) : Slashless (pathNames cs) := by
  have none : Slashless [] := fun _ no => by cases no
  unfold pathNames
  split
  · exact slashless_resolve none []
  · split_ifs
    · exact slashless_resolve none _
    · exact slashless_resolve none _

/-- **What is put behind a path with a slash between.** -/
theorem pathNames_append {path : List Char} (start : ∀ c ∈ path.head?, isSlash c = true)
    (cs : List Char) :
    pathNames (path ++ '/' :: cs) = resolve (leadsTo path) (splitSlashes true cs) := by
  cases path with
  | nil => rfl
  | cons c path =>
    rw [List.cons_append, pathNames, if_pos (start c rfl), segmentsOf_append path rfl, leadsTo]

/-- **Slashes at the end of a path** make no difference but to empty names at its end. -/
theorem trimSegments_pathNames {path : List Char} (start : ∀ c ∈ path.head?, isSlash c = true)
    (k : Nat) :
    trimSegments (pathNames (path ++ List.replicate k '/')) = trimSegments (leadsTo path) := by
  cases path with
  | nil =>
    cases k with
    | zero => rfl
    | succ k => exact trimSegments_segmentsOf [] k
  | cons c path =>
    rw [List.cons_append, pathNames, if_pos (start c rfl), trimSegments_segmentsOf, leadsTo]

end Liveboard.Url
