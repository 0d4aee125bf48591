import StateMachine.Diagnostic
import StateMachine.Pattern.Error

/-!
# Faults

Why an operation is refused. A fault is a cause; `Fault.problem` puts it into words: what happened, why, how to mend
it, and the ids and places concerned.
-/

namespace StateMachine

/-- The kinds of problem that a caller can tell apart. An invalid machine carries everything found. -/
inductive Category where
  /-- None of those below. -/
  | general
  | duplicateIdentifier
  | kindMismatch
  | description
  | invalidMachine (findings : List Diagnostic)

/-- A problem in words. -/
structure Problem where
  category : Category
  what : String
  why : Option String := none
  fix : Option String := none
  context : Context := []

namespace Problem

/-- What happened, then each of cause, remedy and context that is stated. -/
def message (p : Problem) : String :=
  let why := ((stated? p.why).map ("\nWhy: " ++ ·)).getD ""
  let fix := ((stated? p.fix).map ("\nFix: " ++ ·)).getD ""
  let context := ((stated? (some p.context.render)).map ("\nContext:\n" ++ ·)).getD ""
  p.what ++ why ++ fix ++ context

/-- The problem that stands for a list of findings. -/
def ofFindings (what : String) (findings : List Diagnostic) (fix : Option String)
    (context : Context) : Problem :=
  let listed := "\n".intercalate (findings.map fun d => s!"  - {d.what}")
  ⟨.invalidMachine findings, what, (stated? (some listed)).map ("\n" ++ ·), fix, context⟩

end Problem

/-- Why an operation is refused. -/
inductive Fault where
  /-- An id is held already, by an entity of kind `existing`. -/
  | duplicateIdentifier (id existing new : String) (machine : Option String)
  /-- An id names an entity of another kind than the one looked for. -/
  | kindMismatch (id wanted found : String)
  /-- A record lacks a field that it must have. -/
  | missingField (field : String) (place : Option String)
  /-- A field holds a value of the wrong type. -/
  | wrongType (field expected got : String) (place : Option String)
  /-- A message for generated files holds a character that could end a comment. -/
  | illegalMessageCharacter (message found : String)
  /-- The type of an event is no pattern. -/
  | invalidEventType (event : String) (type : Option String) (error : String)
  /-- A number in the type of an event is beyond a limit. -/
  | excessiveNumber (excess : Pattern.Excess)
  /-- The text of a description cannot be read. -/
  | unreadableDescription (path : String)
  /-- A machine has errors. -/
  | invalidMachine (machine : Option String) (errors : List Diagnostic)
  /-- A machine does not hold things of this type. -/
  | notAddable (typeName : String)

namespace Fault

/-- The place of a record, if it is known, as the first named value. -/
def placeContext (place : Option String) : Context :=
  (stated? place).toList.map fun p => ("config_path", .text p)

/-- A fault in words. -/
def problem : Fault → Problem
  | duplicateIdentifier id existing new machine =>
    let holder := if existing == new then "" else s!" (held by {new})"
    { category := .duplicateIdentifier
      what := s!"Can't add {existing} with duplicate ID '{id}'{holder}"
      why := some ("Ids share one namespace across states, events, arcs, actions, "
        ++ "classes and the machine itself.")
      fix := some s!"Rename one of the entities using '{id}'."
      context := (stated? machine).toList.map (fun m => ("machine", .text m))
        ++ [("id", .text id), ("existing_kind", .text existing), ("new_kind", .text new)] }
  | kindMismatch id wanted found =>
    { category := .kindMismatch
      what := s!"'{id}' is not a {wanted}"
      why := some s!"The id is registered, but it names a {found}."
      fix := some s!"Reference a {wanted} id here, or look the id up as a {found}."
      context := [("id", .text id), ("wanted", .text wanted), ("found", .text found)] }
  | missingField field place =>
    { category := .description
      what := s!"Machine description missing required field: '{field}'"
      why := some s!"The '{field}' field is required but was not found."
      fix := some s!"Add '{field}' to the record."
      context := placeContext place ++ [("field", .text field)] }
  | wrongType field expected got place =>
    { category := .description
      what := s!"Field '{field}' has wrong type"
      why := some s!"Expected {expected}, but got {got}."
      fix := some s!"Change '{field}' to be a {expected}."
      context := placeContext place
        ++ [("field", .text field), ("expected", .text expected), ("got", .text got)] }
  | illegalMessageCharacter message found =>
    { category := .description
      what := s!"Illegal character {Text.quoted found} in autogenerated message"
      why := some ("The message is spliced into generated files of many languages, "
        ++ "so only word characters, space and : . / \\ ! , - are allowed.")
      fix := some "Remove the character, and keep the message on one line."
      context := [("message", .text message), ("char", .text found)] }
  | invalidEventType event type error =>
    { category := .description
      what := s!"Event '{event}' has an invalid type pattern"
      why := some s!"Event types are matched as regular expressions: {error}."
      fix := some "Escape special characters in the type, or use '|' to list alternatives."
      context := [("event", .text event), ("type", .ofText? type), ("error", .text error)] }
  | excessiveNumber excess =>
    { category := .general
      what := excess.render }
  | unreadableDescription path =>
    { category := .description
      what := s!"Invalid YAML in machine description: {path}" }
  | invalidMachine machine errors =>
    let id := machine.getD "None"
    Problem.ofFindings s!"Machine '{id}' has {errors.length} validation error(s)" errors
      (some "Declare the missing states and events, or correct the arc references.")
      [("machine", .ofText? machine)]
  | notAddable typeName =>
    { category := .general
      what := s!"cannot add {typeName} to a machine" }

/-- The message of a fault. -/
def message (f : Fault) : String := f.problem.message

end Fault

end StateMachine
