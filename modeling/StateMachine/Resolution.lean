import StateMachine.Workspace

/-!
# Arcs that fire on an event

An arc that leaves `#ALL` stands for one arc from every concrete state. Such an arc is derived for each state, unless
the state has an arc of its own for the event and guard. Arcs come in the order of the numbers of their origins.
-/

namespace StateMachine

/-- The derived arc for one state. If the arc also ends in `#ALL`, the state keeps to itself. -/
def Entity.derivedFor (arc state : Entity) : Entity :=
  let t := arc.transition
  let toId := t.toId.map fun id => if Text.upper id = allStateId then state.id else id
  let id := s!"{arc.id}_{state.id}"
  { arc with
    id := id
    enumId := some (defaultEnumId id)
    detail := .arc { t with fromId := some state.id, toId := toId } }

/-- An arc that fires on an event: one that was declared, or one derived for a state. -/
inductive FiringArc where
  | declared (ref : EntityRef)
  | derived (arc : Entity)

namespace Workspace

/-- The contents of an arc that fires. -/
def firing (ws : Workspace) : FiringArc → Entity
  | .declared r => ws.entity r
  | .derived e => e

/-- What tells arcs on one event apart: the origin in upper case, and the guard. -/
abbrev ArcKey := String × Option String

/-- The key of an arc. -/
def arcKey (e : Entity) : ArcKey :=
  (Text.upper (e.transition.fromId.getD ""), e.transition.guard)

/-- The declared arcs of a machine on an event. -/
def arcsOn (ws : Workspace) (m : MachineRef) (eventId : String) : List EntityRef :=
  (ws.members m .arc).filter fun r => (ws.entity r).isOn eventId

/-- The declared arcs on an event that leave every state. -/
def wildcardsOn (ws : Workspace) (m : MachineRef) (eventId : String) : List EntityRef :=
  (ws.arcsOn m eventId).filter fun r => (ws.entity r).leavesAll

/-- The first declared arc on an event that leaves every state. -/
def allStateArc? (ws : Workspace) (m : MachineRef) (eventId : String) : Option EntityRef :=
  (ws.members m .arc).find? fun r => (ws.entity r).isOn eventId && (ws.entity r).leavesAll

/-- The declared arcs on an event by key. Of two arcs with one key the later one counts, at the place of the
first. -/
def keyedArcs (ws : Workspace) (arcs : List EntityRef) : List (ArcKey × FiringArc) :=
  arcs.foldl (fun keyed r => Assoc.put (arcKey (ws.entity r)) (.declared r) keyed) []

/-- Derives an arc for each state that has none with the guard yet. -/
def expandWildcard (ws : Workspace) (states : List EntityRef)
    (keyed : List (ArcKey × FiringArc)) (wildcard : EntityRef) : List (ArcKey × FiringArc) :=
  let arc := ws.entity wildcard
  states.foldl (fun keyed s =>
    let key : ArcKey := (Text.upper (ws.entity s).id, arc.transition.guard)
    if Assoc.has key keyed then keyed
    else keyed ++ [(key, .derived (arc.derivedFor (ws.entity s)))]) keyed

/-- Replaces the arcs that leave `#ALL` by the arcs derived from them. -/
def expandWildcards (ws : Workspace) (states wildcards : List EntityRef)
    (keyed : List (ArcKey × FiringArc)) : List (ArcKey × FiringArc) :=
  let cleared := wildcards.foldl (fun keyed w =>
    Assoc.erase ((allStateId, (ws.entity w).transition.guard) : ArcKey) keyed) keyed
  wildcards.foldl (ws.expandWildcard states) cleared

/-- The states that an arc leaves and enters, if both ids name states of the machine that it belongs to. -/
def endpoints? (ws : Workspace) (arc : Entity) : Option (EntityRef × EntityRef) :=
  match ws.findFrom arc .state arc.transition.fromId, ws.findFrom arc .state arc.transition.toId with
  | .ok (some f), .ok (some t) => some (f, t)
  | _, _ => none

/-- The states that an arc touches: those of its endpoints that are there. One that keeps to a state touches it
once. -/
def statesOf (ws : Workspace) (arc : Entity) : Except Fault (List EntityRef) := do
  let origin ← ws.findFrom arc .state arc.transition.fromId
  let target ← ws.findFrom arc .state arc.transition.toId
  return origin.toList ++ target.toList.filter fun t => origin ≠ some t

/-- The warning about an arc that is skipped. -/
def unresolvedWarning (arc : Entity) : Diagnostic :=
  .warning s!"arc '{arc.id}'{arc.whereText} has an unresolved state, skipping it"
    (some "Run assert_valid() before resolving arcs.")
    [("arc", .text arc.id), ("from_state", .ofText? arc.transition.fromId),
     ("to_state", .ofText? arc.transition.toId)]

/-- The arcs on an event before their endpoints are looked up. -/
def candidateArcs (ws : Workspace) (m : MachineRef) (eventId : String) (raw : Bool) :
    List FiringArc :=
  let arcs := ws.arcsOn m eventId
  let wildcards := ws.wildcardsOn m eventId
  let keyed := ws.keyedArcs arcs
  let keyed :=
    if wildcards.isEmpty || raw then keyed
    else ws.expandWildcards (ws.byNumber (ws.members m .state)) wildcards keyed
  keyed.map (·.2)

/-- The number of the state that an arc leaves, if it has one. -/
def originNumber? (ws : Workspace) (arc : FiringArc) : Option Int :=
  (ws.endpoints? (ws.firing arc)).bind fun (f, _) => (ws.entity f).number

/-- The number that an arc is sorted by. One that is missing counts as 0, which can only matter to arcs that do not
point back to the machine. -/
def originNumber (ws : Workspace) (arc : FiringArc) : Int := (ws.originNumber? arc).getD 0

/-- The arcs that fire on an event, and warnings about those that are skipped because an endpoint is no state. With
`raw`, arcs that leave `#ALL` stand as declared. -/
def resolve (ws : Workspace) (m : MachineRef) (eventId : String) (raw : Bool) :
    List FiringArc × List Diagnostic :=
  let (good, bad) := (ws.candidateArcs m eventId raw).partition fun a =>
    (ws.endpoints? (ws.firing a)).isSome
  (sorted (fun a b => ws.originNumber a ≤ ws.originNumber b) good,
   bad.map fun a => unresolvedWarning (ws.firing a))

/-- The arcs of a machine that fire on an event. States are numbered anew, and skipped arcs are reported. -/
def arcsForEvent (ws : Workspace) (m : MachineRef) (eventId : String) (raw : Bool) :
    List FiringArc × Workspace :=
  let ws := ws.renumber m
  let (arcs, warnings) := ws.resolve m eventId raw
  (arcs, ws.reportAll m warnings)

end Workspace

end StateMachine
