import StateMachine.Resolution
import StateMachine.Selection

/-!
# Extracting a machine for a target

The extracted machine has the selected events, copies of the arcs that fire on them, the states that these touch,
and all classes and actions. All but the arcs are shared with the source and belong to the extracted machine
afterwards.
-/

namespace StateMachine.Workspace

/-- The arcs that fire on one event after another. Of arcs with one id the first is kept. -/
def collectArcs (ws : Workspace) (m : MachineRef) (events : List EntityRef) :
    List FiringArc × Workspace :=
  events.foldl (fun (arcs, ws) event =>
    let (found, ws) := ws.arcsForEvent m (ws.entity event).id false
    let arcs := found.foldl (fun arcs a =>
      if arcs.any fun b => (ws.firing b).id == (ws.firing a).id then arcs else arcs ++ [a]) arcs
    (arcs, ws)) ([], ws)

/-- The concrete states that arcs touch, each once, in the order of their first arc. -/
def touchedStates (ws : Workspace) (arcs : List FiringArc) : Except Fault (List EntityRef) :=
  arcs.foldlM (fun states a => do
    let touched ← ws.statesOf (ws.firing a)
    return touched.foldl (fun states s =>
      if (ws.entity s).isAllState || states.contains s then states else states ++ [s]) states) []

/-- Reports an empty result, with the ids that led to it. -/
def reportIfEmpty (ws : Workspace) (m : MachineRef) (empty : Bool) (d : Diagnostic) : Workspace :=
  if empty then ws.report m d else ws

/-- Nothing is selected. -/
def noEvents (specifiers : List String) : Diagnostic :=
  .warning "no events found"
    (some "Check the type specifiers against the events' type attributes.")
    [("specifiers", .ofTexts specifiers)]

/-- No arc fires on a selected event. -/
def noArcs (eventIds : List String) : Diagnostic :=
  .warning "no arcs found" none [("events", .ofTexts eventIds)]

/-- No arc touches a concrete state. -/
def noStates (arcIds : List String) : Diagnostic :=
  .warning "no states found" none [("arcs", .ofTexts arcIds)]

/-- The head of an extracted machine. Its message is the one that the source reads. -/
def Head.copied (h : Head) : Head := { h with ownMessage := some h.message }

/-- Makes a machine of shared entities and copied arcs. -/
def assemble (ws : Workspace) (m : MachineRef) (events states : List EntityRef)
    (arcs : List FiringArc) : Workspace × Except Fault MachineRef :=
  match ws.newMachine (Head.copied (ws.machine m).head) with
  | (ws, .error fault) => (ws, .error fault)
  | (ws, .ok clone) =>
    let copies := arcs.map fun a => { ws.firing a with machine := none }
    let (copied, ws) := ws.newEntities copies
    let shared := ws.members m .bundle ++ ws.members m .action
    match ws.add clone ((events ++ states ++ copied ++ shared).map .entity) with
    | (ws, .error fault) => (ws, .error fault)
    | (ws, .ok ()) => (ws, .ok clone)

/-- Extracts a machine with the events that the specifiers select. Empty results are reported on the source. -/
def extract (ws : Workspace) (m : MachineRef) (specifiers : List String) :
    Workspace × Except Fault MachineRef :=
  match ws.matchingEvents m specifiers with
  | .error fault => (ws, .error fault)
  | .ok events =>
    let ws := ws.reportIfEmpty m events.isEmpty (noEvents specifiers)
    let (arcs, ws) := ws.collectArcs m events
    let ws := ws.reportIfEmpty m arcs.isEmpty (noArcs (events.map fun r => (ws.entity r).id))
    match ws.touchedStates arcs with
    | .error fault => (ws, .error fault)
    | .ok touched =>
      let ws := ws.reportIfEmpty m touched.isEmpty (noStates (arcs.map fun a => (ws.firing a).id))
      match ws.assemble m events (ws.byNumber touched) arcs with
      | (ws, .error fault) => (ws, .error fault)
      | (ws, .ok clone) =>
        let counts := s!"{events.length} event(s), {arcs.length} arc(s), {touched.length} state(s)"
        let journal := ws.journal.within (ws.machine m).head.id fun j =>
          j.write .info s!"Extracted output machine: {counts}"
        ({ ws with journal := journal }, .ok clone)

end StateMachine.Workspace
