import Mathlib.Data.FinEnum
import Liveboard.Url.Percent

/-!
# What a part of a path stands for

A part of a path stands for the bytes that are left when its escapes are resolved. What is
written into a path is escaped where it has to be, so that the written part stands for what
was written: a byte that has no place in a path is written as an escape. A percent sign has
a place there, and is written as it is. Thus the escapes that were in a text before it was
written are escapes afterwards, and the part stands for what they resolve to
(`Percent.decode_bytes_encode`).

Every escape that is resolved makes the text shorter. So a part stands for a text of its own
length only if it has no escapes, and then it stands for itself. `Percent.eq_of_decode_bytes`
has this for what was taken from a text in any way, since more may be lost when the text is
read than its escapes.
-/

namespace Liveboard.Percent

/-- **The bytes of some characters.** -/
def bytes (cs : List Char) : List UInt8 :=
  cs.flatMap String.utf8EncodeChar

@[simp]
theorem bytes_cons (c : Char) (cs : List Char) :
    bytes (c :: cs) = String.utf8EncodeChar c ++ bytes cs :=
  rfl

/-- Every character has bytes, so what is taken from a text and has as many is the text. -/
theorem eq_of_sublist_of_length {as bs : List Char} (sub : as.Sublist bs)
    (long : (bytes bs).length ≤ (bytes as).length) : as = bs := by
  induction sub with
  | slnil => rfl
  | @cons as bs c sub _ =>
    have short : (bytes as).length ≤ (bytes bs).length := (sub.flatMap _).length_le
    have some := List.length_pos_iff.2 (String.utf8EncodeChar_ne_nil (c := c))
    rw [bytes_cons, List.length_append] at long
    exact absurd (long.trans short) (by omega)
  | @cons_cons as bs c _ ih =>
    rw [bytes_cons, bytes_cons, List.length_append, List.length_append] at long
    rw [ih (by omega)]

/-! ## Resolving escapes -/

theorem decode_cons_of_ne {b : UInt8} (other : b ≠ 0x25) (bs : List UInt8) :
    decode (b :: bs) = b :: decode bs := by
  rw [decode]
  rintro _ _ _ rfl
  exact absurd rfl other

theorem decode_escape {high low b : UInt8} (digits : unescape? high low = some b)
    (bs : List UInt8) : decode (0x25 :: high :: low :: bs) = b :: decode bs := by
  rw [decode, digits]

theorem length_decode_le (bs : List UInt8) : (decode bs).length ≤ bs.length := by
  fun_induction decode bs with
  | case1 high low rest b _ ih =>
    simp only [List.length_cons]
    omega
  | case2 high low rest _ ih =>
    simp only [List.length_cons] at ih ⊢
    omega
  | case3 b rest _ ih =>
    simp only [List.length_cons]
    omega
  | case4 => exact Nat.le_refl _

/-- A percent sign that no two digits follow stands for itself. -/
theorem decode_percent {bs : List UInt8}
    (no : ∀ high low rest, bs = high :: low :: rest → unescape? high low = none) :
    decode (0x25 :: bs) = 0x25 :: decode bs := by
  match bs with
  | [] | [_] => rfl
  | high :: low :: rest => rw [decode, no high low rest rfl]

/-! ## Writing a part of a path -/

/-- **What a byte is written as**: an escape of it if it has no place in a path, and itself
otherwise. Digits have a place there, and only a slash is written as one. -/
theorem encodeByte_path : ∀ b : UInt8,
    (path b = true →
      bytes (encodeByte path b)
          = [0x25, (hexDigit (b.toNat / 16)).toUInt8, (hexDigit (b.toNat % 16)).toUInt8] ∧
        unescape? (hexDigit (b.toNat / 16)).toUInt8 (hexDigit (b.toNat % 16)).toUInt8 = some b) ∧
    (path b = false → bytes (encodeByte path b) = [b]) ∧
    ((hexValue? b).isSome = true → path b = false) ∧
    (b ≠ 0x2F → '/' ∉ encodeByte path b) ∧
    encodeByte path b ≠ [] := by
  decide +kernel

/-- A byte that has no place in a path is written as an escape of it. -/
theorem bytes_encodeByte_of_mem (b : UInt8) (mem : path b = true) :
    bytes (encodeByte path b)
        = [0x25, (hexDigit (b.toNat / 16)).toUInt8, (hexDigit (b.toNat % 16)).toUInt8] ∧
      unescape? (hexDigit (b.toNat / 16)).toUInt8 (hexDigit (b.toNat % 16)).toUInt8 = some b :=
  (encodeByte_path b).1 mem

/-- A byte that has a place in a path is written as it is. -/
theorem bytes_encodeByte_of_not_mem (b : UInt8) (other : path b = false) :
    bytes (encodeByte path b) = [b] :=
  (encodeByte_path b).2.1 other

/-- Digits have a place in a path. -/
theorem path_of_hexValue? (b : UInt8) (digit : (hexValue? b).isSome = true) : path b = false :=
  (encodeByte_path b).2.2.1 digit

theorem digits_of_unescape? {high low b : UInt8} (digits : unescape? high low = some b) :
    (hexValue? high).isSome = true ∧ (hexValue? low).isSome = true := by
  simp only [unescape?, Option.bind_eq_bind, Option.bind_eq_some_iff] at digits
  obtain ⟨x, first, y, second, -⟩ := digits
  exact ⟨Option.isSome_of_mem first, Option.isSome_of_mem second⟩

theorem unescape?_percent_left (low : UInt8) : unescape? 0x25 low = none :=
  rfl

theorem unescape?_percent_right (high : UInt8) : unescape? high 0x25 = none := by
  rw [unescape?]
  cases hexValue? high <;> rfl

/-- Writing makes no new escapes: a byte that is escaped begins with a percent sign, which is
no digit. -/
theorem unescape?_of_flatMap {bs : List UInt8}
    (no : ∀ high low rest, bs = high :: low :: rest → unescape? high low = none) :
    ∀ high low rest, bs.flatMap (fun b => bytes (encodeByte path b)) = high :: low :: rest →
      unescape? high low = none := by
  intro high low rest written
  match bs, no with
  | [], _ => cases written
  | b :: bs, no =>
    rw [List.flatMap_cons] at written
    cases first : path b with
    | true =>
      rw [(bytes_encodeByte_of_mem b first).1] at written
      obtain ⟨rfl, -⟩ := List.cons.inj written
      exact unescape?_percent_left low
    | false =>
      rw [bytes_encodeByte_of_not_mem b first, List.singleton_append] at written
      obtain ⟨rfl, later⟩ := List.cons.inj written
      match bs, no with
      | [], _ => cases later
      | c :: bs, no =>
        rw [List.flatMap_cons] at later
        cases second : path c with
        | true =>
          rw [(bytes_encodeByte_of_mem c second).1] at later
          obtain ⟨rfl, -⟩ := List.cons.inj later
          exact unescape?_percent_right _
        | false =>
          rw [bytes_encodeByte_of_not_mem c second, List.singleton_append] at later
          obtain ⟨rfl, -⟩ := List.cons.inj later
          exact no _ _ _ rfl

theorem decode_flatMap_encodeByte (bs : List UInt8) :
    decode (bs.flatMap fun b => bytes (encodeByte path b)) = decode bs := by
  fun_induction decode bs with
  | case1 high low rest b digits ih =>
    obtain ⟨first, second⟩ := digits_of_unescape? digits
    simp only [List.flatMap_cons, bytes_encodeByte_of_not_mem 0x25 rfl,
      bytes_encodeByte_of_not_mem high (path_of_hexValue? high first),
      bytes_encodeByte_of_not_mem low (path_of_hexValue? low second), List.cons_append,
      List.nil_append]
    rw [decode_escape digits, ih]
  | case2 high low rest none ih =>
    have no : ∀ h l t, high :: low :: rest = h :: l :: t → unescape? h l = Option.none := by
      rintro _ _ _ same
      obtain ⟨rfl, rfl, -⟩ : high = _ ∧ low = _ ∧ rest = _ := by simpa using same
      exact none
    rw [List.flatMap_cons, bytes_encodeByte_of_not_mem 0x25 rfl, List.singleton_append,
      decode_percent (unescape?_of_flatMap no), ih]
  | case3 b rest short ih =>
    rw [List.flatMap_cons]
    cases escaped : path b with
    | true =>
      obtain ⟨written, digits⟩ := bytes_encodeByte_of_mem b escaped
      rw [written, List.cons_append, List.cons_append, List.cons_append, List.nil_append,
        decode_escape digits, ih]
    | false =>
      rw [bytes_encodeByte_of_not_mem b escaped, List.singleton_append]
      by_cases percent : b = 0x25
      · subst percent
        have no : ∀ h l t, rest = h :: l :: t → unescape? h l = none :=
          fun h l t same => (short h l t rfl same).elim
        rw [decode_percent (unescape?_of_flatMap no), ih]
      · rw [decode_cons_of_ne percent, ih]
  | case4 => rfl

/-- **What is written into a path stands for what its escapes resolve to.** -/
theorem decode_bytes_encode (cs : List Char) :
    decode (bytes (encode path cs)) = decode (bytes cs) := by
  rw [← decode_flatMap_encodeByte (bytes cs), encode, bytes, List.flatMap_assoc]
  rfl

/-- **What stands for a text that it was taken from** is the text, and has no escapes. -/
theorem eq_of_decode_bytes {as bs : List Char} (sub : as.Sublist bs)
    (stands : decode (bytes as) = bytes bs) : as = bs ∧ decode (bytes bs) = bytes bs := by
  have short := length_decode_le (bytes as)
  rw [stands] at short
  obtain rfl := eq_of_sublist_of_length sub short
  exact ⟨rfl, stands⟩

theorem encode_append (set : UInt8 → Bool) (as bs : List Char) :
    encode set (as ++ bs) = encode set as ++ encode set bs := by
  rw [encode, List.flatMap_append, List.flatMap_append]
  rfl

theorem encode_cons (set : UInt8 → Bool) (c : Char) (cs : List Char) :
    encode set (c :: cs) = encode set [c] ++ encode set cs :=
  encode_append set [c] cs

/-! ## Slashes -/

theorem slash_not_mem_encodeByte (b : UInt8) (other : b ≠ 0x2F) : '/' ∉ encodeByte path b :=
  (encodeByte_path b).2.2.2.1 other

/-- A slash is a byte of no other character. -/
theorem slash_not_mem_utf8EncodeChar {c : Char} (other : c ≠ '/') :
    0x2F ∉ String.utf8EncodeChar c := by
  have ne : c.val.toNat ≠ 47 := fun same => other (Char.ext (UInt32.toNat_inj.1 same))
  unfold String.utf8EncodeChar
  dsimp only
  split_ifs with one two three <;>
    simp only [List.mem_cons, List.not_mem_nil, or_false, ← UInt8.toNat_inj, UInt8.toNat_ofNat',
      show (0x2F : UInt8).toNat = 47 from rfl] <;>
    omega

/-- **No slash is made by writing.** -/
theorem slash_not_mem_encode {cs : List Char} (no : '/' ∉ cs) : '/' ∉ encode path cs := by
  rw [encode, List.mem_flatMap]
  rintro ⟨b, mem, slash⟩
  obtain ⟨c, inside, of⟩ := List.mem_flatMap.1 mem
  have other : c ≠ '/' := fun same => no (same ▸ inside)
  refine slash_not_mem_encodeByte b ?_ slash
  rintro rfl
  exact slash_not_mem_utf8EncodeChar other of

theorem encode_ne_nil {cs : List Char} (some : cs ≠ []) : encode path cs ≠ [] := by
  obtain ⟨c, cs, rfl⟩ := List.exists_cons_of_ne_nil some
  obtain ⟨b, bs, written⟩ := List.exists_cons_of_ne_nil (String.utf8EncodeChar_ne_nil (c := c))
  rw [encode, List.flatMap_cons, written, List.cons_append, List.flatMap_cons]
  exact List.append_ne_nil_of_left_ne_nil (encodeByte_path b).2.2.2.2 _

end Liveboard.Percent
