import StateMachine.Pattern.Matching
import StateMachine.Pattern.Reading

/-!
# Compiled patterns

A pattern that was read and is ready to be matched. Event types are compiled without regard to case.
-/

namespace StateMachine

/-- A pattern that can be matched. -/
structure CompiledPattern where
  program : Pattern.Program
  /-- The least length of the texts that match. -/
  least : Nat

namespace CompiledPattern

/-- Reads a pattern to be matched without regard to case. -/
def compile (pattern : String) : Except Pattern.Failure CompiledPattern :=
  match Pattern.read pattern.toList with
  | .ok e =>
    let mode := (Pattern.Mode.change {} [.ignoreCase] []).change e.flags []
    .ok ⟨Pattern.programOf mode none e.nodes, e.width.1⟩
  | .error failure => .error failure

/-- Whether the pattern matches a whole text. -/
def matchesAll (p : CompiledPattern) (text : String) : Bool :=
  p.least ≤ text.length && p.program.matchesAll (text.toList.map Text.codeOf).toArray

end CompiledPattern

end StateMachine
