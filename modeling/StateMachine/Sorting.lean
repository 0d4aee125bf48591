import StateMachine.Text.CodePoint

/-!
# Sorting

Insertion sort. Elements that the order does not tell apart keep their places.
-/

namespace StateMachine

variable {α : Type}

/-- Puts an element before the first one that it may precede. -/
def insertSorted (le : α → α → Bool) (x : α) : List α → List α
  | [] => [x]
  | y :: ys => if le x y then x :: y :: ys else y :: insertSorted le x ys

/-- The elements in ascending order. -/
def sorted (le : α → α → Bool) (xs : List α) : List α :=
  xs.foldr (insertSorted le) []

/-- The code points of a text, in order. -/
def codePoints (s : String) : List Nat := s.toList.map Text.codeOf

/-- The order of texts by code points. -/
def textLe (a b : String) : Bool := !decide (codePoints b < codePoints a)

end StateMachine
