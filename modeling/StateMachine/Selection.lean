import StateMachine.Pattern
import StateMachine.Workspace

/-!
# Selecting events

Each event says by its type for which targets it is meant: the type is a pattern that must match the whole name of a
target, in any letter case. A caller lists specifiers: names of targets, or names after a `!` to exclude. An event
whose type matches `#ALL` or `#ANY` is always selected.
-/

namespace StateMachine

/-- Names of targets to select for, and names to leave out. -/
structure Specifiers where
  includes : List String
  excludes : List String
  deriving DecidableEq, Repr

namespace Specifiers

/-- The name after the mark of an exclusion. -/
def excluded? (specifier : String) : Option String :=
  match specifier.toList with
  | '!' :: rest => some (String.ofList rest)
  | _ => none

/-- Tells exclusions from the rest. -/
def split (specifiers : List String) : Specifiers :=
  ⟨specifiers.filter fun s => (excluded? s).isNone, specifiers.filterMap excluded?⟩

end Specifiers

/-- The types that every selection takes. -/
def universalTypes : List String := ["#ALL", "#ANY"]

/-- Why the type of an event is refused, as a whole pattern. A type that counts beyond a limit is not named by its
event. -/
def Fault.ofFailure (eventId : String) (type : Option String) (pattern : String) : Pattern.Failure → Fault
  | .wrong e => .invalidEventType eventId type (e.render pattern.toList)
  | .excess x => .excessiveNumber x

/-- The type of an event as a pattern. -/
def compileEventType (eventId : String) (type : Option String) : Except Fault CompiledPattern :=
  let body := type.getD ""
  let pattern := s!"(?:{body})"
  (CompiledPattern.compile pattern).mapError (.ofFailure eventId type pattern)

/-- Whether a type with this pattern is selected. -/
def CompiledPattern.isSelected (p : CompiledPattern) (s : Specifiers) : Bool :=
  universalTypes.any p.matchesAll
    || ((s.includes.isEmpty || s.includes.any p.matchesAll) && !s.excludes.any p.matchesAll)

/-- Whether an event of this type is selected. -/
def eventMatches (eventId : String) (type : Option String) (s : Specifiers) : Except Fault Bool :=
  (compileEventType eventId type).map fun p => p.isSelected s

namespace Workspace

/-- The events of a machine that are selected, in the order of their addition; all of them if nothing is
specified. -/
def matchingEvents (ws : Workspace) (m : MachineRef) (specifiers : List String) :
    Except Fault (List EntityRef) :=
  if specifiers.isEmpty then .ok (ws.members m .event)
  else
    (ws.members m .event).filterM fun r =>
      eventMatches (ws.entity r).id (ws.entity r).eventType (.split specifiers)

end Workspace

end StateMachine
