import Mathlib.Tactic.SplitIfs

/-!
# Splitting texts

A text is split at a separator from place to place, with a step back where the separator was
only begun. That this ends is seen from the places, not from the text, so nothing follows about
the pieces by computation. With the number of steps given, it does: `splitWithin` is the same
algorithm by recursion on a number, and where that number is large enough its pieces are those
of the text (`splitOn_eq`).
-/

namespace Liveboard

/-- **Splitting in a number of steps**, from a state on: where the piece begins, where the
reading is in the text and in the separator, and the pieces before in reverse. -/
def splitWithin (s separator : String) :
    Nat → (b i j : String.Pos.Raw) → List String → Option (List String)
  | 0, _, _, _, _ => none
  | steps + 1, b, i, j, pieces =>
    if i.atEnd s then some (b.extract s i :: pieces).reverse
    else if i.get s == j.get separator then
      if (j.next separator).atEnd separator then
        splitWithin s separator steps (i.next s) (i.next s) 0
          (b.extract s ((i.next s).unoffsetBy (j.next separator)) :: pieces)
      else splitWithin s separator steps b (i.next s) (j.next separator) pieces
    else splitWithin s separator steps b ((i.unoffsetBy j).next s) 0 pieces

theorem splitOnAux_eq {s separator : String} {steps : Nat} {b i j : String.Pos.Raw}
    {pieces result : List String}
    (within : splitWithin s separator steps b i j pieces = some result) :
    s.splitOnAux separator b i j pieces = result := by
  induction steps generalizing b i j pieces with
  | zero => cases within
  | succ steps ih =>
    rw [splitWithin] at within
    rw [String.splitOnAux]
    dsimp only
    split_ifs at within ⊢
    · exact Option.some.inj within
    all_goals exact ih within

/-- **The pieces of a text**, if there are enough steps. -/
theorem splitOn_eq {s separator : String} {result : List String} (steps : Nat)
    (some : separator ≠ "") (within : splitWithin s separator steps 0 0 0 [] = .some result) :
    s.splitOn separator = result := by
  rw [String.splitOn, if_neg (by simpa using some)]
  exact splitOnAux_eq within

end Liveboard
