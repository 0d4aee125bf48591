import StateMachine.Workspace

/-!
# Checking a machine

A check goes through all arcs and collects every defect: an endpoint or event that is missing, unknown or of another
kind, and arcs that leave one state on the same event and guard. Constants that several entities share are warnings.
-/

namespace StateMachine.Workspace

/-! ## References of arcs -/

/-- The references of an arc that must resolve. -/
inductive Role where
  | origin
  | target
  | event
  deriving DecidableEq, Repr

namespace Role

/-- The field that holds the reference. -/
def name : Role → String
  | origin => "from"
  | target => "to"
  | event => "event"

/-- How diagnostics call the reference. -/
def label : Role → String
  | origin => "from state"
  | target => "to state"
  | event => "event-id"

/-- The kind of entity that the reference must name. -/
def kind : Role → Kind
  | origin | target => .state
  | event => .event

/-- The id that an arc holds in this role. -/
def reference (role : Role) (t : Transition) : Option String :=
  match role with
  | origin => t.fromId
  | target => t.toId
  | event => t.eventId

end Role

/-- A defect of an arc. -/
def arcError (arc : Entity) (what : String) (context : Context) : Diagnostic :=
  let place := arc.location.toList.map fun l => ("location", Value.text l.render)
  { level := Diagnostic.errorLevel
    what := s!"{what} in arc '{arc.id}'{arc.whereText}"
    context := ("arc", .text arc.id) :: context ++ place }

/-- The defect of one reference of an arc, if it has one. -/
def referenceError? (ws : Workspace) (m : MachineRef) (arc : Entity) (role : Role) :
    Option Diagnostic :=
  let field : String × Value := ("field", .text role.name)
  match role.reference arc.transition with
  | none => some (arcError arc s!"no {role.label} (None)" [field])
  | some "" => some (arcError arc s!"no {role.label} ('')" [field])
  | some id =>
    let context : Context := [field, ("ref", .text id)]
    match (ws.machine m).registry.find? id with
    | none => some (arcError arc s!"unknown {role.label} '{id}'" context)
    | some found =>
      if ws.kindOf found = role.kind then none
      else
        let other := (ws.kindOf found).name
        some (arcError arc s!"{role.label} '{id}' names a {other}" context)

/-- The defects of all references of an arc: origin, target, event. -/
def referenceErrors (ws : Workspace) (m : MachineRef) (r : EntityRef) : List Diagnostic :=
  [Role.origin, .target, .event].filterMap (ws.referenceError? m (ws.entity r))

/-! ## Collisions -/

/-- Event and guard of an arc as one text. -/
def eventKey (t : Transition) : String :=
  t.eventId.getD "" ++ (t.guard.map fun g => s!"[{g}]").getD ""

/-- Where an arc leaves from and on what, if its origin is a state. -/
def exitKey? (ws : Workspace) (m : MachineRef) (r : EntityRef) : Option (String × String) :=
  let arc := ws.entity r
  if (ws.referenceError? m arc .origin).isSome then none
  else some (arc.transition.fromId.getD "", eventKey arc.transition)

/-- Order of exit keys: by state, then by event. -/
def exitKeyLe (a b : String × String) : Bool :=
  if a.1 == b.1 then textLe a.2 b.2 else textLe a.1 b.1

/-- The arcs that share their exit, by exit in ascending order. -/
def collisions (ws : Workspace) (m : MachineRef) : List ((String × String) × List EntityRef) :=
  let keyed := (ws.members m .arc).filterMap fun r => (ws.exitKey? m r).map fun key => (key, r)
  let groups := (Assoc.groupBy (·.1) keyed).map fun (key, arcs) => (key, arcs.map (·.2))
  sorted (fun a b => exitKeyLe a.1 b.1) (groups.filter fun group => 2 ≤ group.2.length)

/-- The defect of arcs that share their exit. -/
def collisionError (ws : Workspace) (key : String × String) (arcs : List EntityRef) : Diagnostic :=
  { level := Diagnostic.errorLevel
    what := s!"multiple arcs exit from state {key.1} by event {key.2}"
    fix := some "Give the arcs distinct guards, or remove all but one."
    context := [("state", .text key.1), ("arcs", .ofTexts (arcs.map fun r => (ws.entity r).id))] }

/-! ## Shared constants -/

/-- The name of the constant of an entity, as texts show it. -/
def constantName (enumId : Option String) : String := enumId.getD "None"

/-- The entities of a machine that share the name of their constant, by name. -/
def sharedConstants (ws : Workspace) (m : MachineRef) :
    List (Option String × List EntityRef) :=
  (Assoc.groupBy (fun r => (ws.entity r).enumId) (ws.registered m)).filter fun group =>
    2 ≤ group.2.length

/-- The warning about entities that share the name of their constant. -/
def sharedConstantWarning (ws : Workspace) (enumId : Option String) (holders : List EntityRef) :
    Diagnostic :=
  let labels := " ".intercalate (holders.map fun r => (ws.entity r).label)
  .warning s!"multiple objects with the enum_id '{constantName enumId}': {labels}"
    (some "Set an explicit enum_id on one of them.")
    [("enum_id", .ofText? enumId), ("ids", .ofTexts (holders.map fun r => (ws.entity r).id))]

/-! ## The check -/

/-- All errors of a machine: those of references, then collisions. -/
def errors (ws : Workspace) (m : MachineRef) : List Diagnostic :=
  (ws.members m .arc).flatMap (ws.referenceErrors m)
    ++ (ws.collisions m).map fun (key, arcs) => ws.collisionError key arcs

/-- What is to be said about a machine. -/
def examine (ws : Workspace) (m : MachineRef) : Report :=
  { machineId := (ws.machine m).head.id
    stateCount := (ws.members m .state).length
    eventCount := (ws.members m .event).length
    arcCount := (ws.members m .arc).length
    warnings := (ws.sharedConstants m).map fun (id, holders) => ws.sharedConstantWarning id holders
    errors := ws.errors m }

/-- Checks a machine. Its states are numbered anew. -/
def check (ws : Workspace) (m : MachineRef) : Report × Workspace :=
  let ws := ws.renumber m
  (ws.examine m, ws)

/-- Fails if a machine has errors. Warnings are reported in either case. -/
def assertValid (ws : Workspace) (m : MachineRef) : Workspace × Except Fault Unit :=
  let (report, ws) := ws.check m
  let ws := ws.reportAll m report.warnings
  if report.isValid then (ws, .ok ())
  else (ws, .error (.invalidMachine (ws.machine m).head.id report.errors))

end StateMachine.Workspace
