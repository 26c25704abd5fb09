import Mathlib.Data.List.DropRight
import Liveboard.Url.Basic

/-!
# Where the path of an address begins

The user, the host and the port of a web address stand before its path, and the first slash,
question mark or number sign after them ends them. So they do not depend on what follows: an
address that goes on after its host differs from the one that does not only in its path, its
query and its fragment (`Url.parseAuthority_append`).

Where the host begins does not depend on what follows either, and that is less clear: slashes
in front of it are skipped, as many as there are, so a text that ends with them has its host
in what is put behind. `Url.exists_authority` is about texts that can be read as they are, and
these have their host already.
-/

namespace Liveboard.Url

/-! ## Texts that go on -/

/-- What begins with a character that ends the first text does not add to its front. -/
theorem takeWhile_append_of_head? {α : Type} {p : α → Bool} {t : List α}
    (ends : ∀ c ∈ t.head?, p c = false) (cs : List α) :
    (cs ++ t).takeWhile p = cs.takeWhile p ∧ (cs ++ t).dropWhile p = cs.dropWhile p ++ t := by
  induction cs with
  | nil =>
    cases t with
    | nil => exact ⟨rfl, rfl⟩
    | cons c t =>
      have no : ¬p c = true := by simp [ends c rfl]
      exact ⟨List.takeWhile_cons_of_neg no, List.dropWhile_cons_of_neg no⟩
  | cons c cs ih =>
    cases own : p c with
    | true =>
      rw [List.cons_append, List.takeWhile_cons_of_pos own, List.takeWhile_cons_of_pos own, ih.1,
        List.dropWhile_cons_of_pos own, List.dropWhile_cons_of_pos own]
      exact ⟨rfl, ih.2⟩
    | false =>
      have no : ¬p c = true := by simp [own]
      rw [List.cons_append, List.takeWhile_cons_of_neg no, List.takeWhile_cons_of_neg no,
        List.dropWhile_cons_of_neg no, List.dropWhile_cons_of_neg no]
      exact ⟨rfl, rfl⟩

/-- **A text that may follow a host.** -/
def Opens (t : List Char) : Prop :=
  ∀ c ∈ t.head?, endsAuthority true c = true

theorem endsAuthority_iff {c : Char} :
    endsAuthority true c = true ↔ c = '/' ∨ c = '?' ∨ c = '#' ∨ c = '\\' := by
  simp [endsAuthority, or_assoc]

theorem opens_cons {c : Char} (ends : endsAuthority true c = true) (t : List Char) :
    Opens (c :: t) := by
  intro d mem
  obtain rfl := Option.some.inj mem
  exact ends

theorem Opens.append {t rest : List Char} (opens : Opens t) (later : Opens rest) :
    Opens (t ++ rest) := by
  cases t with
  | nil => exact later
  | cons c t => exact opens_cons (opens c rfl) (t ++ rest)

/-- Every text stands partly before the path, and the rest of it may follow a host. -/
theorem exists_opens (cs : List Char) :
    ∃ inside path, cs = inside ++ path ∧ (∀ c ∈ inside, endsAuthority true c = false) ∧
      Opens path := by
  refine ⟨cs.takeWhile (!endsAuthority true ·), cs.dropWhile (!endsAuthority true ·),
    List.takeWhile_append_dropWhile.symm, fun c mem => ?_, fun c mem => ?_⟩
  · simpa using List.mem_takeWhile_imp mem
  · have head := List.head?_dropWhile_not (!endsAuthority true ·) cs
    rw [Option.mem_def.1 mem] at head
    simpa using head

theorem Opens.split {t : List Char} (opens : Opens t) (cs : List Char) :
    (cs ++ t).takeWhile (!endsAuthority true ·) = cs.takeWhile (!endsAuthority true ·) ∧
      (cs ++ t).dropWhile (!endsAuthority true ·) = cs.dropWhile (!endsAuthority true ·) ++ t :=
  takeWhile_append_of_head? (fun c mem => by rw [opens c mem]; rfl) cs

/-- What holds no such character stands before the path. -/
theorem Opens.split_of_inside {t : List Char} (opens : Opens t) {cs : List Char}
    (inside : ∀ c ∈ cs, endsAuthority true c = false) :
    (cs ++ t).takeWhile (!endsAuthority true ·) = cs ∧
      (cs ++ t).dropWhile (!endsAuthority true ·) = t := by
  have all : ∀ c ∈ cs, (!endsAuthority true c) = true := fun c mem => by rw [inside c mem]; rfl
  obtain ⟨front, rest⟩ := opens.split cs
  rw [front, rest, List.takeWhile_eq_self_iff.2 all, List.dropWhile_eq_nil_iff.2 all]
  exact ⟨rfl, rfl⟩

/-! ## Host and port -/

theorem splitHost_append {t : List Char} (opens : Opens t) (bracketed : Bool) (cs : List Char) :
    splitHost true bracketed (cs ++ t)
      = ((splitHost true bracketed cs).1, (splitHost true bracketed cs).2 ++ t) := by
  induction cs generalizing bracketed with
  | nil =>
    cases t with
    | nil => rfl
    | cons c t =>
      have ends : (endsAuthority true c || (c = ':' && !bracketed)) = true := by
        rw [opens c rfl, Bool.true_or]
      exact if_pos ends
  | cons c cs ih =>
    rw [List.cons_append, splitHost, splitHost]
    split_ifs
    · rfl
    · dsimp only
      rw [ih]
    · dsimp only
      rw [ih]
    · dsimp only
      rw [ih]

/-- What a host leaves over is nothing or begins with a colon, if a path does not follow. -/
theorem splitHost_rest {cs : List Char} (inside : ∀ c ∈ cs, endsAuthority true c = false)
    (bracketed : Bool) :
    (splitHost true bracketed cs).2 = [] ∨
      ∃ rest, (splitHost true bracketed cs).2 = ':' :: rest ∧
        ∀ c ∈ rest, endsAuthority true c = false := by
  induction cs generalizing bracketed with
  | nil => exact .inl rfl
  | cons c cs ih =>
    obtain ⟨first, later⟩ := List.forall_mem_cons.1 inside
    by_cases colon : c = ':' ∧ bracketed = false
    · obtain ⟨rfl, rfl⟩ := colon
      exact .inr ⟨cs, rfl, later⟩
    · have no : ¬(endsAuthority true c || (c = ':' && !bracketed)) = true := by
        simpa [first] using colon
      rw [splitHost, if_neg no]
      exact ih later _

theorem splitPort_append {scheme : String} {t : List Char} (opens : Opens t) {cs : List Char}
    (port : cs = [] ∨ ∃ rest, cs = ':' :: rest) :
    splitPort scheme (cs ++ t) = (splitPort scheme cs).map
      fun (port, rest) => (port, rest ++ t) := by
  rcases port with rfl | ⟨cs, rfl⟩
  · cases t with
    | nil => rfl
    | cons c t =>
      have other : c ≠ ':' := by
        rintro rfl
        cases opens ':' rfl
      rw [List.nil_append, splitPort]
      · rfl
      · rintro _ same
        exact other (List.cons.inj same).1
  · have noDigit : ∀ c ∈ t.head?, c.isDigit = false := by
      intro c mem
      rcases endsAuthority_iff.1 (opens c mem) with rfl | rfl | rfl | rfl <;> rfl
    obtain ⟨digits, rest⟩ := takeWhile_append_of_head? noDigit cs
    have fits : ((cs.dropWhile Char.isDigit ++ t).head?.all fun c => endsAuthority true c)
        = (cs.dropWhile Char.isDigit).head?.all fun c => endsAuthority true c := by
      cases cs.dropWhile Char.isDigit with
      | nil =>
        rw [List.nil_append]
        cases t with
        | nil => rfl
        | cons c t => exact opens c rfl
      | cons => rfl
    rw [List.cons_append, splitPort, splitPort]
    dsimp only
    rw [digits, rest, fits]
    cases portOf? (cs.takeWhile Char.isDigit) with
    | none => rfl
    | some port =>
      dsimp only
      split_ifs <;> rfl

/-- The port of the scheme is left out. -/
theorem splitPort_ok {scheme : String} {cs rest : List Char} {port : Option Nat}
    (ok : splitPort scheme cs = .ok (port, rest)) :
    ∀ p, port = some p → defaultPort? scheme ≠ some p := by
  rintro p rfl
  unfold splitPort at ok
  split at ok
  · dsimp only at ok
    split at ok
    · cases ok
    · split_ifs at ok with _ other
      · cases ok
      · obtain ⟨same, -⟩ := Prod.mk.inj (Except.ok.inj ok)
        obtain rfl := Option.some.inj same
        exact fun default => other (by rw [decide_eq_true default, Bool.or_true])
  · cases ok

/-- Nothing is left over of a port that no path follows. -/
theorem splitPort_rest {scheme : String} {cs rest : List Char} {port : Option Nat}
    (start : cs = [] ∨ ∃ after, cs = ':' :: after ∧ ∀ c ∈ after, endsAuthority true c = false)
    (ok : splitPort scheme cs = .ok (port, rest)) : rest = [] := by
  rcases start with rfl | ⟨after, rfl, inside⟩
  · exact (Prod.mk.inj (Except.ok.inj ok)).2.symm
  · rw [splitPort] at ok
    split at ok
    · cases ok
    · split_ifs at ok with fits
      all_goals
        obtain ⟨-, rfl⟩ := Prod.mk.inj (Except.ok.inj ok)
        cases left : after.dropWhile Char.isDigit with
        | nil => rfl
        | cons c cs =>
          have mem : c ∈ after := List.dropWhile_sublist _ |>.subset (left ▸ List.mem_cons_self)
          rw [left] at fits
          have ends : endsAuthority true c = true := fits
          rw [inside c mem] at ends
          cases ends

/-! ## Web addresses -/

/-- **A web address after its user.** -/
def afterUser (scheme username : String) (password : Option String) (cs : List Char) :
    Except UrlFault Url := do
  let (hostText, cs) := splitHost true false cs
  if hostText.isEmpty then throw .emptyHost
  let host ← Host.parse hostText
  let (port, cs) ← splitPort scheme cs
  return Url.withRest { bare scheme with
    username := username
    password := password
    host := some host
    port := port } true cs

theorem parseAuthority_eq {scheme : String} (special : isSpecial scheme = true) (cs : List Char) :
    parseAuthority scheme cs
      = (splitUser true cs).bind fun (username, password, cs) =>
          afterUser scheme username password cs := by
  rw [parseAuthority, special]
  cases splitUser true cs with
  | error fault => rfl
  | ok user =>
    obtain ⟨username, password, cs⟩ := user
    dsimp only [bind, Except.bind]
    rw [afterUser]
    cases empty : (splitHost true false cs).1.isEmpty with
    | true =>
      simp only [empty, Bool.and_true, if_true]
      rfl
    | false =>
      simp only [empty, Bool.false_and, Bool.false_eq_true, if_false, if_true]
      rfl

theorem afterUser_append {scheme username : String} {password : Option String} {cs t : List Char}
    (inside : ∀ c ∈ cs, endsAuthority true c = false) (opens : Opens t) :
    afterUser scheme username password (cs ++ t)
      = (afterUser scheme username password cs).map (·.withRest true t) := by
  have start := splitHost_rest inside false
  have colon : (splitHost true false cs).2 = [] ∨
      ∃ rest, (splitHost true false cs).2 = ':' :: rest :=
    start.imp_right fun ⟨rest, split, _⟩ => ⟨rest, split⟩
  rw [afterUser, afterUser, splitHost_append opens]
  dsimp only
  split_ifs with empty
  · rfl
  · rw [splitPort_append opens colon]
    cases Host.parse (splitHost true false cs).1 with
    | error fault => rfl
    | ok host =>
      cases port : splitPort scheme (splitHost true false cs).2 with
      | error fault => rfl
      | ok result =>
        obtain ⟨port, rest⟩ := result
        obtain rfl := splitPort_rest start port
        rfl

theorem mem_of_splitLast? {x : Char} {cs before after : List Char}
    (split : splitLast? x cs = some (before, after)) {c : Char} (mem : c ∈ after) : c ∈ cs := by
  rw [splitLast?] at split
  split_ifs at split
  obtain ⟨-, rfl⟩ := Prod.mk.inj (Option.some.inj split)
  exact List.mem_reverse.1 ((List.takeWhile_sublist _).subset (List.mem_reverse.1 mem))

/-- **What follows a host** adds nothing to what stands before it. -/
theorem parseAuthority_append {scheme : String} (special : isSpecial scheme = true)
    {cs t : List Char} (inside : ∀ c ∈ cs, endsAuthority true c = false) (opens : Opens t) :
    parseAuthority scheme (cs ++ t) = (parseAuthority scheme cs).map (·.withRest true t) := by
  have nothing : Opens [] := fun _ no => by cases no
  obtain ⟨front, rest⟩ := opens.split_of_inside inside
  obtain ⟨front', rest'⟩ := nothing.split_of_inside inside
  rw [List.append_nil] at front' rest'
  rw [parseAuthority_eq special, parseAuthority_eq special, splitUser, splitUser, front, rest,
    front', rest']
  cases split : splitLast? '@' cs with
  | none => exact afterUser_append inside opens
  | some parts =>
    obtain ⟨before, after⟩ := parts
    have later : ∀ c ∈ after, endsAuthority true c = false :=
      fun c mem => inside c (mem_of_splitLast? split mem)
    cases before with
    | nil =>
      dsimp only
      cases after with
      | nil =>
        -- nothing stands between the user and the path: there is no host either way
        cases t with
        | nil => rfl
        | cons c t => rfl
      | cons a after =>
        rw [List.append_nil]
        exact afterUser_append later opens
    | cons b before =>
      dsimp only
      rw [List.append_nil]
      exact afterUser_append later opens

/-! ## What is read -/

/-- What is read in steps was read at each of them. -/
theorem ok_of_bind {α β : Type} {x : Except UrlFault α} {f : α → Except UrlFault β} {b : β}
    (ok : x >>= f = .ok b) : ∃ a, x = .ok a ∧ f a = .ok b := by
  cases x with
  | ok a => exact ⟨a, rfl, ok⟩
  | error fault => cases ok

theorem afterUser_ok {scheme username : String} {password : Option String} {cs : List Char}
    {u : Url} (ok : afterUser scheme username password cs = .ok u) :
    u.scheme = scheme ∧ u.host.isSome = true ∧
      (∀ p, u.port = some p → defaultPort? scheme ≠ some p) ∧
      ∃ v rest, u = withRest v true rest := by
  rw [afterUser] at ok
  dsimp only at ok
  split_ifs at ok
  · cases ok
  · obtain ⟨host, -, ok⟩ := ok_of_bind ok
    obtain ⟨⟨port, path⟩, split, ok⟩ := ok_of_bind ok
    obtain rfl := Except.ok.inj ok
    exact ⟨rfl, rfl, splitPort_ok split, _, _, rfl⟩

/-- **What is read of a web address** has a host, and names its port only if that is not the
one of the scheme. -/
theorem parseAuthority_ok {scheme : String} (special : isSpecial scheme = true) {cs : List Char}
    {u : Url} (ok : parseAuthority scheme cs = .ok u) :
    u.scheme = scheme ∧ u.host.isSome = true ∧
      (∀ p, u.port = some p → defaultPort? scheme ≠ some p) ∧
      ∃ v rest, u = withRest v true rest := by
  rw [parseAuthority_eq special] at ok
  obtain ⟨⟨username, password, rest⟩, -, ok⟩ := ok_of_bind ok
  exact afterUser_ok ok

/-! ## The scheme -/

/-- **An address after its scheme.** -/
def parseFrom (scheme : String) (cs : List Char) : Except UrlFault Url :=
  if scheme = "file" then parseFile cs
  else if isSpecial scheme then
    parseAuthority scheme (cs.dropWhile fun c => c = '/' || c = '\\')
  else
    match cs with
    | '/' :: '/' :: rest => parseAuthority scheme rest
    | _ => .ok (parseBare scheme cs)

/-- **An address without the blanks that do not count.** -/
def parseTidied (cs : List Char) : Except UrlFault Url :=
  match splitScheme? cs with
  | none => .error .relative
  | some (scheme, cs) => parseFrom scheme cs

theorem parse_eq (s : String) : parse s = parseTidied (tidy s) :=
  rfl

/-- **Which texts have a scheme.** -/
theorem splitScheme?_eq_some_iff {cs rest : List Char} {scheme : String} :
    splitScheme? cs = some (scheme, rest) ↔
      ∃ first name, cs = first :: name ++ ':' :: rest ∧ first.isAlpha = true ∧
        (∀ c ∈ first :: name, isSchemeChar c = true) ∧
        scheme = String.ofList ((first :: name).map Char.toLower) := by
  constructor
  · intro split
    rw [splitScheme?] at split
    split at split
    · rename_i first name rest' front back
      split_ifs at split with alpha
      obtain ⟨rfl, rfl⟩ := Prod.mk.inj (Option.some.inj split)
      refine ⟨first, name, ?_, alpha, ?_, ?_⟩
      · rw [← front, ← back, List.takeWhile_append_dropWhile]
      · intro c mem
        rw [← front] at mem
        exact List.mem_takeWhile_imp mem
      · rw [front]
    · cases split
  · rintro ⟨first, name, rfl, alpha, chars, rfl⟩
    have colon : ∀ c ∈ (':' :: rest).head?, isSchemeChar c = false := by
      rintro _ mem
      obtain rfl := Option.some.inj mem
      rfl
    obtain ⟨front, back⟩ := takeWhile_append_of_head? colon (first :: name)
    rw [List.takeWhile_eq_self_iff.2 chars] at front
    rw [List.dropWhile_eq_nil_iff.2 chars, List.nil_append] at back
    rw [splitScheme?, front, back]
    exact if_pos alpha

theorem scheme_of_parseAuthority {scheme : String} {cs : List Char} {u : Url}
    (ok : parseAuthority scheme cs = .ok u) : u.scheme = scheme := by
  by_cases special : isSpecial scheme = true
  · exact (parseAuthority_ok special ok).1
  · rw [parseAuthority] at ok
    obtain ⟨⟨username, password, rest⟩, -, ok⟩ := ok_of_bind ok
    simp only [special, Bool.and_false, Bool.false_eq_true, if_false] at ok
    obtain ⟨host, -, ok⟩ := ok_of_bind ok
    split at ok
    · cases ok
    · obtain ⟨⟨port, path⟩, -, ok⟩ := ok_of_bind ok
      split at ok
      · cases ok
      · obtain rfl := Except.ok.inj ok
        rfl

theorem scheme_of_parseFile {cs : List Char} {u : Url} (ok : parseFile cs = .ok u) :
    u.scheme = "file" := by
  unfold parseFile at ok
  split at ok
  · split at ok
    · dsimp only at ok
      split at ok
      · obtain rfl := Except.ok.inj ok
        rfl
      · obtain ⟨host, -, ok⟩ := ok_of_bind ok
        obtain rfl := Except.ok.inj ok
        rfl
    · obtain rfl := Except.ok.inj ok
      rfl
  · obtain rfl := Except.ok.inj ok
    rfl

theorem scheme_parseBare (scheme : String) (cs : List Char) :
    (parseBare scheme cs).scheme = scheme := by
  unfold parseBare
  split <;> rfl

/-- **The scheme of an address** is the one of its text. -/
theorem scheme_of_parseFrom {scheme : String} {cs : List Char} {u : Url}
    (ok : parseFrom scheme cs = .ok u) : u.scheme = scheme := by
  unfold parseFrom at ok
  split_ifs at ok with file special
  · rw [scheme_of_parseFile ok, file]
  · exact scheme_of_parseAuthority ok
  · split at ok
    · exact scheme_of_parseAuthority ok
    · obtain rfl := Except.ok.inj ok
      exact scheme_parseBare scheme cs

/-! ## The host -/

/-- Whether a character is a slash of a web address. -/
def isSlash (c : Char) : Bool :=
  c = '/' || c = '\\'

theorem parseFrom_of_web {scheme : String} (web : scheme = "http" ∨ scheme = "https")
    (cs : List Char) : parseFrom scheme cs = parseAuthority scheme (cs.dropWhile isSlash) := by
  rcases web with rfl | rfl <;> rfl

theorem isSpecial_of_web {scheme : String} (web : scheme = "http" ∨ scheme = "https") :
    isSpecial scheme = true := by
  rcases web with rfl | rfl <;> rfl

/-- **Where the host of a web address begins**: at a character that is no slash. What comes
before it does not depend on what comes after. -/
theorem exists_authority {cs : List Char} {u : Url} (ok : parseTidied cs = .ok u)
    (web : u.scheme = "http" ∨ u.scheme = "https") :
    ∃ before c after, cs = before ++ c :: after ∧ isSlash c = false ∧
      ∀ rest, parseTidied (before ++ c :: rest) = parseAuthority u.scheme (c :: rest) := by
  rw [parseTidied] at ok
  cases split : splitScheme? cs with
  | none =>
    rw [split] at ok
    cases ok
  | some parts =>
    obtain ⟨scheme, after⟩ := parts
    rw [split] at ok
    dsimp only at ok
    obtain rfl := scheme_of_parseFrom ok
    obtain ⟨first, name, rfl, alpha, chars, named⟩ := splitScheme?_eq_some_iff.1 split
    rw [parseFrom_of_web web] at ok
    cases start : after.dropWhile isSlash with
    | nil =>
      rw [start, parseAuthority_eq (isSpecial_of_web web)] at ok
      cases ok
    | cons c rest =>
      have noSlash : isSlash c = false := by
        have head := List.head?_dropWhile_not isSlash after
        rwa [start] at head
      refine ⟨first :: name ++ ':' :: after.takeWhile isSlash, c, rest, ?_, noSlash, fun rest => ?_⟩
      · rw [List.append_assoc, List.cons_append (a := ':'), ← start,
          List.takeWhile_append_dropWhile]
      · have again : splitScheme? (first :: name ++ ':' :: (after.takeWhile isSlash ++ c :: rest))
            = some (u.scheme, after.takeWhile isSlash ++ c :: rest) :=
          splitScheme?_eq_some_iff.2 ⟨first, name, rfl, alpha, chars, named⟩
        have skip : (after.takeWhile isSlash ++ c :: rest).dropWhile isSlash = c :: rest := by
          rw [List.dropWhile_append_of_pos fun _ => List.mem_takeWhile_imp,
            List.dropWhile_cons_of_neg (by rw [noSlash]; simp)]
        rw [List.append_assoc, List.cons_append (a := ':'), parseTidied, again]
        dsimp only
        rw [parseFrom_of_web web, skip]

end Liveboard.Url
