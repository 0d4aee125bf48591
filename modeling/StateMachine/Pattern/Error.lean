/-!
# Why a pattern is not read

What is wrong with a pattern and where. Places count characters from 0. In a pattern of several lines the place is
given as line and column too. A number that is larger or longer than a pattern may count with is no error of the
pattern: it is told apart, and has no place.
-/

namespace StateMachine.Pattern

/-- What is wrong with a pattern, and at which character if that is known. -/
structure PatternError where
  message : String
  position : Option Nat := none
  deriving DecidableEq, Repr

/-- Line and column of a place, both from 1. The last line break before the place is column 0. -/
def lineAndColumn (pattern : List Char) (position : Nat) : Nat × Nat :=
  let before := pattern.take position
  (before.count '\n' + 1, (before.reverse.takeWhile (· != '\n')).length + 1)

/-- The error as a text. -/
def PatternError.render (e : PatternError) (pattern : List Char) : String :=
  match e.position with
  | none => e.message
  | some position =>
    let place := s!"{e.message} at position {position}"
    if pattern.contains '\n' then
      let (line, column) := lineAndColumn pattern position
      s!"{place} (line {line}, column {column})"
    else place

/-- The most digits that a number may be written with. -/
def digitLimit : Nat := 4300

/-- How the number of a repetition goes beyond what a pattern may count with. -/
inductive Excess where
  /-- Too many repetitions. -/
  | count
  /-- Written with this many digits. -/
  | digits (number : Nat)
  deriving DecidableEq, Repr

/-- The excess as a text. -/
def Excess.render : Excess → String
  | count => "the repetition number is too large"
  | digits number =>
    s!"Exceeds the limit ({digitLimit} digits) for integer string conversion: value has {number} digits; "
      ++ "use sys.set_int_max_str_digits() to increase the limit"

/-- Why a pattern is not read. -/
inductive Failure where
  /-- It breaks the syntax. -/
  | wrong (e : PatternError)
  /-- It counts beyond a limit. -/
  | excess (x : Excess)
  deriving DecidableEq, Repr

end StateMachine.Pattern
