import StateMachine.Inheritance
import StateMachine.Resolution

/-!
# Switch tables

A machine as C source: an enumeration of its states, and for each event a function that runs the actions of the arc
that fires and answers the next state.
-/

namespace StateMachine.SwitchTable

/-- A text without the line breaks at its end. -/
def withoutFinalBreaks (s : String) : String :=
  String.ofList (s.toList.reverse.dropWhile (· == '\n')).reverse

/-- The constant of a state. -/
def constant (e : Entity) : String := "ST_" ++ e.enumId.getD "None"

/-- The line that runs an action. -/
def actionLine (e : Entity) : String := "        " ++ e.code.getD "None"

/-- The actions of an arc that fires. -/
def handlers (ws : Workspace) (arc : Entity) : Except Fault (List EntityRef) :=
  ws.findAll arc .action arc.transition.handlerIds

/-- The actions run when an arc fires: those of leaving its origin, its own, and those of entering its target. An arc
that keeps to its state does not leave it. -/
def actions (ws : Workspace) (arc : Entity) (origin target : EntityRef) :
    Except Fault (List EntityRef) :=
  if origin = target then handlers ws arc
  else do
    let leaving ← ws.exitHandlersOf origin
    let own ← handlers ws arc
    let entering ← ws.entryHandlersOf target
    return leaving ++ own ++ entering

/-- The lines of one case: its actions, and the next state. -/
def caseLines (ws : Workspace) (arc : Entity) : Except Fault (List String) :=
  match ws.endpoints? arc with
  | none => .ok []
  | some (origin, target) => do
    let actions ← actions ws arc origin target
    return s!"    case {constant (ws.entity origin)}:"
      :: actions.map (fun a => actionLine (ws.entity a))
      ++ [s!"        return {constant (ws.entity target)};"]

/-- The lines of the cases of a function. -/
def cases (ws : Workspace) (arcs : List FiringArc) : Except Fault (List String) :=
  (arcs.mapM fun a => caseLines ws (ws.firing a)).map List.flatten

/-- The function of an event. -/
def functionLines (id : String) (cases : List String) : List String :=
  [s!"enum state on_{id}(enum state s) \x7b", "    switch (s) \x7b"] ++ cases
    ++ ["    default:", "        return s;", "    \x7d", "\x7d", ""]

/-- The functions of events, in order. States are numbered anew for each. -/
def functions (ws : Workspace) (m : MachineRef) :
    List EntityRef → Workspace × Except Fault (List String)
  | [] => (ws, .ok [])
  | event :: rest =>
    let (arcs, ws) := ws.arcsForEvent m (ws.entity event).id false
    match cases ws arcs with
    | .error fault => (ws, .error fault)
    | .ok lines =>
      match functions ws m rest with
      | (ws, .error fault) => (ws, .error fault)
      | (ws, .ok others) => (ws, .ok (functionLines (ws.entity event).id lines ++ others))

/-- The enumeration of the states of a machine. -/
def enumeration (ws : Workspace) (states : List EntityRef) : List String :=
  "enum state \x7b" :: states.map (fun r =>
    let e := ws.entity r
    let number := (e.number.map toString).getD "None"
    s!"    {constant e} = {number},") ++ ["\x7d;", ""]

/-- Lines as a text that ends in one line break. -/
def joinLines (lines : List String) : String :=
  "\n".intercalate (lines.reverse.dropWhile (·.isEmpty)).reverse ++ "\n"

/-- The C source of a machine. -/
def render (ws : Workspace) (m : MachineRef) : Workspace × Except Fault String :=
  let head := (ws.machine m).head
  let preamble := (stated? head.preamble).toList.map withoutFinalBreaks
  let postamble := (stated? head.postamble).toList.map withoutFinalBreaks
  let (states, ws) := ws.states m
  let opening := s!"/* {head.message} */" :: preamble ++ [""] ++ enumeration ws states
  match functions ws m (ws.members m .event) with
  | (ws, .error fault) => (ws, .error fault)
  | (ws, .ok lines) => (ws, .ok (joinLines (opening ++ lines ++ postamble)))

end StateMachine.SwitchTable
