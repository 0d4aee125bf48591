/-!
# Runs of case mappings

Case mappings shift long runs of code points by one amount. A run names its first and last code point,
the step from one member to the next (1 or 2) and the shift.
-/

namespace StateMachine.Text

/-- The code points `first`, `first + step`, … up to `last`, each mapped by adding `shift`. -/
structure CaseRun where
  first : Nat
  last : Nat
  step : Nat
  shift : Int

/-- Whether a code point is a member of the run. -/
def CaseRun.has (run : CaseRun) (n : Nat) : Bool :=
  run.first ≤ n && n ≤ run.last && (n - run.first) % run.step == 0

/-- Whether the run has a member from `first` to `last`. -/
def CaseRun.meets (run : CaseRun) (first last : Nat) : Bool :=
  let start := run.first + (first - run.first + run.step - 1) / run.step * run.step
  start ≤ last && start ≤ run.last

/-- The image of a code point: shifted by the first run that has it, else itself. -/
def shiftCode (runs : List CaseRun) (n : Nat) : Nat :=
  match runs.find? (·.has n) with
  | some run => (n + run.shift).toNat
  | none => n

/-- The code points other than `n` that the runs map to `n`. -/
def shiftedTo (runs : List CaseRun) (n : Nat) : List Nat :=
  runs.filterMap fun run =>
    let source := ((n : Int) - run.shift).toNat
    if run.has source then some source else none

end StateMachine.Text
