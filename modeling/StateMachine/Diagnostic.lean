import StateMachine.Text.Upper
import StateMachine.Value.Display

/-!
# Diagnostics

One finding about a machine: what is wrong, and if known why, how to mend it, and the values concerned. Warnings are
observations only; an error makes a machine invalid.
-/

namespace StateMachine

/-- Named values that a diagnostic or an error concerns. -/
abbrev Context := List (String × Value)

/-- One line for each named value. -/
def Context.lines (context : Context) : List String :=
  context.map fun (name, value) => s!"  {name}={value.quoted}"

/-- The lines of a context as one text. -/
def Context.render (context : Context) : String := "\n".intercalate context.lines

/-- A text that is there and not empty. -/
def stated? : Option String → Option String
  | some s => if s.isEmpty then none else some s
  | none => none

/-- A finding. Its level is `error`, `warning` or a name that its maker chose. -/
structure Diagnostic where
  level : String
  what : String
  why : Option String := none
  fix : Option String := none
  context : Context := []
  deriving Inhabited

namespace Diagnostic

def errorLevel : String := "error"

def warningLevel : String := "warning"

/-- Whether the finding makes a machine invalid. -/
def isError (d : Diagnostic) : Bool := d.level == errorLevel

/-- An observation about a machine. -/
def warning (what : String) (fix : Option String) (context : Context) : Diagnostic :=
  ⟨warningLevel, what, none, fix, context⟩

/-- The finding as a text: one line for what is wrong, then what else is known. -/
def render (d : Diagnostic) : String :=
  let why := (stated? d.why).toList.map fun s => s!"Why: {s}"
  let fix := (stated? d.fix).toList.map fun s => s!"Fix: {s}"
  let context := if d.context.isEmpty then [] else ["Context:\n" ++ d.context.render]
  "\n".intercalate (s!"[{Text.upper d.level}] {d.what}" :: why ++ fix ++ context)

end Diagnostic

end StateMachine
