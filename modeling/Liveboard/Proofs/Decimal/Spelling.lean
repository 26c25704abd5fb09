import Mathlib.Data.List.Basic
import Mathlib.Data.List.Induction
import Mathlib.Tactic.NormNum
import Liveboard.Decimal.Reading

/-!
# How whole numbers are spelled

A whole number is read from many texts: with zeros in front, with a plus, a zero
also with a minus. It is written in one of them only, and this one is the plain
spelling (`IsPlainWhole`). So a text that is read as a number and written again
comes back if and only if it is plain (`toString_readSigned?`).
-/

namespace Liveboard

/-- **Plain digits**: a zero alone, or none in front. -/
def IsPlain (digits : List Char) : Prop :=
  digits = ['0'] ∨ digits.head? ≠ some '0'

/-- **A whole number in its plain spelling**: the zero, or what begins neither with a plus nor,
behind its sign, with a zero. -/
def IsPlainWhole (text : String) : Prop :=
  text = "0" ∨ text.toList.head? ≠ some '+' ∧ (splitSign text.toList).2.head? ≠ some '0'

/-! ## Digits -/

theorem digitsValue_append_singleton (digits : List Char) (c : Char) :
    digitsValue (digits ++ [c]) = 10 * digitsValue digits + (c.toNat - '0'.toNat) := by
  rw [digitsValue, digitsValue, List.foldl_append, List.foldl_cons, List.foldl_nil, mul_comm]

/-- The digit of a number below ten. -/
theorem digitChar_of_isDigit {c : Char} (digit : c.isDigit = true) :
    c.toNat - '0'.toNat < 10 ∧ (c.toNat - '0'.toNat).digitChar = c := by
  have bounds : 48 ≤ c.toNat ∧ c.toNat ≤ 57 := by
    simpa [Char.isDigit, UInt32.le_iff_toNat_le] using digit
  have one : ∀ n ≤ 57, 48 ≤ n → n - 48 < 10 ∧ ((n - 48).digitChar).toNat = n := by decide
  obtain ⟨small, same⟩ := one c.toNat bounds.2 bounds.1
  exact ⟨small, Char.toNat_inj.1 same⟩

/-- Digits that are written have no zero in front. -/
theorem isPlain_toDigits (n : ℕ) : IsPlain (Nat.toDigits 10 n) := by
  induction n using Nat.strong_induction_on with
  | h n ih =>
    rcases lt_or_ge n 10 with small | large
    · rw [Nat.toDigits_of_lt_base small]
      rcases Nat.eq_zero_or_pos n with rfl | pos
      · exact .inl rfl
      · refine .inr fun zero => pos.ne' ?_
        rw [← Nat.digitChar_eq_zero]
        simpa using zero
    · have fewer : 0 < n / 10 := Nat.div_pos large (by norm_num)
      have head : (Nat.toDigits 10 (n / 10)).head? ≠ some '0' := by
        refine (ih (n / 10) (by omega)).resolve_left fun zero => fewer.ne' ?_
        have value := congrArg (Nat.ofDigitChars 10 · 0) zero
        rw [Nat.ofDigitChars_ten_toDigits] at value
        exact value
      right
      rw [Nat.toDigits_of_base_le (by norm_num) large, List.head?_append_of_ne_nil _
        Nat.toDigits_ne_nil]
      exact head

/-- **Digits come back** if and only if they are plain. -/
theorem toDigits_digitsValue {digits : List Char} (run : isDigits digits = true) :
    Nat.toDigits 10 (digitsValue digits) = digits ↔ IsPlain digits := by
  refine ⟨fun same => same ▸ isPlain_toDigits _, fun plain => ?_⟩
  induction digits using List.reverseRecOn with
  | nil => cases run
  | append_singleton digits c ih =>
    have each : (∀ d ∈ digits, d.isDigit = true) ∧ c.isDigit = true := by
      simpa [isDigits, List.all_append] using run
    obtain ⟨small, last⟩ := digitChar_of_isDigit each.2
    rw [digitsValue_append_singleton]
    by_cases empty : digits = []
    · subst empty
      rw [show digitsValue [] = 0 from rfl, Nat.mul_zero, Nat.zero_add,
        Nat.toDigits_of_lt_base small, last]
      rfl
    · have head : digits.head? ≠ some '0' := by
        rw [IsPlain, List.head?_append_of_ne_nil _ empty] at plain
        refine plain.resolve_left fun one => ?_
        have length := congrArg List.length one
        rw [List.length_append] at length
        exact empty (List.eq_nil_of_length_eq_zero (by simpa using length))
      have same := ih (by simpa [isDigits, empty] using each.1) (.inr head)
      have pos : 0 < digitsValue digits := by
        refine Nat.pos_of_ne_zero fun zero => head ?_
        rw [← same, zero, Nat.toDigits_zero]
        rfl
      rw [← Nat.toDigits_append_toDigits (by norm_num) pos small, same,
        Nat.toDigits_of_lt_base small, last]

/-! ## Whole numbers -/

theorem toList_toString_natCast (n : ℕ) : (toString (n : ℤ)).toList = Nat.toDigits 10 n := by
  rw [Int.toString_eq_repr, Int.repr_eq_if, if_pos (Int.natCast_nonneg n), Int.toNat_natCast,
    Nat.toList_repr]

theorem toList_toString_neg {n : ℕ} (pos : 0 < n) :
    (toString (-(n : ℤ))).toList = '-' :: Nat.toDigits 10 n := by
  rw [Int.toString_eq_repr, Int.repr_eq_if, if_neg (by omega), neg_neg, Int.toNat_natCast,
    String.toList_append, Nat.toList_repr]
  rfl

/-- **A sign** is split off, if there is one. -/
theorem splitSign_cases (cs : List Char) :
    (∃ digits, cs = '-' :: digits ∧ splitSign cs = (true, digits)) ∨
      (∃ digits, cs = '+' :: digits ∧ splitSign cs = (false, digits)) ∨
      splitSign cs = (false, cs) := by
  unfold splitSign
  split
  · exact .inl ⟨_, rfl, rfl⟩
  · exact .inr (.inl ⟨_, rfl, rfl⟩)
  · exact .inr (.inr rfl)

/-- What digits begin with is a digit. -/
theorem isDigit_head {digits : List Char} (run : isDigits digits = true) {c : Char}
    (head : digits.head? = some c) : c.isDigit = true := by
  rw [isDigits, Bool.and_eq_true, List.all_eq_true] at run
  exact run.2 c (List.mem_of_mem_head? head)

/-- **A whole number comes back** if and only if it is spelled plainly. -/
theorem toString_readSigned? {text : String} {n : ℤ} (read : readSigned? text = some n) :
    toString n = text ↔ IsPlainWhole text := by
  have zero : text = "0" ↔ text.toList = ['0'] := String.toList_inj.symm
  rw [← String.toList_inj, IsPlainWhole, zero]
  rw [readSigned?] at read
  generalize text.toList = cs at read ⊢
  -- Without a minus it is a matter of digits, which a plus is none of.
  have unsigned : ∀ digits : List Char, isDigits digits = true → n = digitsValue digits →
      ((toString n).toList = digits ↔ digits = ['0'] ∨
        digits.head? ≠ some '+' ∧ digits.head? ≠ some '0') := by
    rintro digits run rfl
    have number : digits.head? ≠ some '+' := fun plus => by cases isDigit_head run plus
    rw [toList_toString_natCast, toDigits_digitsValue run, IsPlain, and_iff_right number]
  rcases splitSign_cases cs with ⟨digits, rfl, split⟩ | ⟨digits, rfl, split⟩ | split <;>
    rw [split] at read ⊢ <;>
    simp only [Bool.false_eq_true, if_true, if_false] at read <;>
    split_ifs at read with bad small <;> obtain rfl := Option.some.inj read
  · have run : isDigits digits = true := by simpa using bad
    rcases Nat.eq_zero_or_pos (digitsValue digits) with none | pos
    · -- A zero is written without a sign, and its digits are zeros.
      have zeros : digits.head? = some '0' := by
        by_contra head
        have same := (toDigits_digitsValue run).2 (.inr head)
        rw [none, Nat.toDigits_zero] at same
        rw [← same] at head
        exact head rfl
      exact iff_of_false (by rw [none]; simp [Int.repr]) (by simp [zeros])
    · have plain : IsPlain digits ↔ digits.head? ≠ some '0' := by
        refine or_iff_right ?_
        rintro rfl
        cases pos
      rw [toList_toString_neg pos, List.cons_inj_right, toDigits_digitsValue run, plain]
      simp
  · refine iff_of_false (fun same => ?_) (by simp)
    rw [toList_toString_natCast] at same
    have plus : '+' ∈ Nat.toDigits 10 (digitsValue digits) := by simp [same]
    cases Nat.isDigit_of_mem_toDigits (by norm_num) (by norm_num) plus
  · exact unsigned cs (by simpa using bad) rfl

end Liveboard
