import StateMachine.Pattern.Syntax
import StateMachine.Text.Lower
import StateMachine.Text.Upper

/-!
# Patterns and letter case

Without regard to case, characters are the same if their lower-case forms are, or if these have a common upper-case
form. Patterns that know ASCII only compare the letters from A to Z in this way and no others.
-/

namespace StateMachine.Pattern

/-! ## Modes -/

/-- The flags in force at a place of a pattern. -/
structure Mode where
  ignoreCase : Bool := false
  multiline : Bool := false
  dotAll : Bool := false
  ascii : Bool := false
  deriving DecidableEq, Repr

/-- Flags switched on, then flags switched off. A flag for a character set replaces the one in force. -/
def Mode.change (m : Mode) (on off : List Flag) : Mode :=
  let set (flag : Flag) (now : Bool) := (now || on.contains flag) && !off.contains flag
  { ignoreCase := set .ignoreCase m.ignoreCase
    multiline := set .multiline m.multiline
    dotAll := set .dotAll m.dotAll
    ascii := if on.any Flag.choosesCharset then on.contains .ascii else m.ascii }

/-- How characters are compared: as they are, or by their lower-case forms. -/
inductive Fold where
  | exact
  | ascii
  | unicode
  deriving DecidableEq, Repr

/-- How characters are compared at a place of a pattern. -/
def Mode.fold (m : Mode) : Fold :=
  if !m.ignoreCase then .exact else if m.ascii then .ascii else .unicode

/-! ## Lower case -/

/-- The lower-case characters that share an upper-case form with others. -/
def sharedUpperCase : List (List Nat) :=
  [[0x69, 0x131], [0x73, 0x17f], [0xb5, 0x3bc], [0x345, 0x3b9, 0x1fbe],
   [0x390, 0x1fd3], [0x3b0, 0x1fe3], [0x3b2, 0x3d0], [0x3b5, 0x3f5],
   [0x3b8, 0x3d1], [0x3ba, 0x3f0], [0x3c0, 0x3d6], [0x3c1, 0x3f1],
   [0x3c2, 0x3c3], [0x3c6, 0x3d5], [0x432, 0x1c80], [0x434, 0x1c81],
   [0x43e, 0x1c82], [0x441, 0x1c83], [0x442, 0x1c84, 0x1c85], [0x44a, 0x1c86],
   [0x463, 0x1c87], [0x1c88, 0xa64b], [0x1e61, 0x1e9b], [0xfb05, 0xfb06]]

/-- A lower-case character and those that share its upper-case form. -/
def caseClass (n : Nat) : List Nat :=
  (sharedUpperCase.find? (·.contains n)).getD [n]

/-- The lower-case form of an ASCII letter. -/
def asciiLower (n : Nat) : Nat := if 0x41 ≤ n ∧ n ≤ 0x5a then n + 32 else n

/-- Whether a code point is a letter from A to Z in either case. -/
def isAsciiLetterCode (n : Nat) : Bool := 0x61 ≤ asciiLower n && asciiLower n ≤ 0x7a

namespace Fold

/-- The form of a character by which it is compared. -/
def lower : Fold → Nat → Nat
  | exact, n => n
  | ascii, n => asciiLower n
  | unicode, n => Text.lowerCode n

/-- Whether a character has another case. -/
def isCased : Fold → Nat → Bool
  | exact, _ => false
  | ascii, n => isAsciiLetterCode n
  | unicode, n => Text.lowerCode n != n || Text.upperCode n != n

/-- Whether one of the characters from `first` to `last` has another case. -/
def anyCased : Fold → Nat → Nat → Bool
  | exact, _, _ => false
  | ascii, first, last => (first ≤ 0x5a && 0x41 ≤ last) || (first ≤ 0x7a && 0x61 ≤ last)
  | unicode, first, last =>
    Text.lowerRuns.any (·.meets first last) || Text.upperRuns.any (·.meets first last)
      || Text.upperExpansions.any fun (n, _) => first ≤ n && n ≤ last

/-- The characters that are compared like a lower-case one: those with its lower-case form, and those whose
lower-case forms share its upper-case form. -/
def variants : Fold → Nat → List Nat
  | exact, n => [n]
  | ascii, n => if isAsciiLetterCode n then [n, n - 32] else [n]
  | unicode, n => (caseClass n).flatMap fun low => low :: Text.shiftedTo Text.lowerRuns low

end Fold

end StateMachine.Pattern
