import StateMachine.Journal
import StateMachine.Machine
import StateMachine.Report

/-!
# Workspaces

Machines and entities live in a workspace and are known by reference: an entity may be registered in several
machines, but belongs to the last one it was added to. Operations take a workspace and answer the changed one; one
that fails answers what it had changed by then, beside the fault.
-/

namespace StateMachine

/-- All entities and machines, and the journal they write to. -/
structure Workspace where
  entities : List Entity := []
  machines : List Machine := []
  journal : Journal := {}

namespace Workspace

/-! ## Entities -/

/-- The entity behind a reference. -/
def entity (ws : Workspace) (r : EntityRef) : Entity := ws.entities.getD r.index default

/-- Changes one entity. -/
def modifyEntity (ws : Workspace) (r : EntityRef) (f : Entity → Entity) : Workspace :=
  { ws with entities := ws.entities.modify r.index f }

/-- Makes a new entity. -/
def newEntity (ws : Workspace) (e : Entity) : EntityRef × Workspace :=
  (⟨ws.entities.length⟩, { ws with entities := ws.entities ++ [e.named] })

/-- Makes new entities, in order. -/
def newEntities (ws : Workspace) : List Entity → List EntityRef × Workspace
  | [] => ([], ws)
  | e :: rest =>
    let (r, ws) := ws.newEntity e
    let (rs, ws) := ws.newEntities rest
    (r :: rs, ws)

def kindOf (ws : Workspace) (r : EntityRef) : Kind := (ws.entity r).kind

/-! ## Machines -/

/-- The machine behind a reference. -/
def machine (ws : Workspace) (m : MachineRef) : Machine := ws.machines.getD m.index default

/-- Changes one machine. -/
def modifyMachine (ws : Workspace) (m : MachineRef) (f : Machine → Machine) : Workspace :=
  { ws with machines := ws.machines.modify m.index f }

/-- The members of one kind, in the order of their addition. -/
def members (ws : Workspace) (m : MachineRef) (kind : Kind) : List EntityRef :=
  (ws.machine m).members kind

/-- Everything registered in a machine, the state `#ALL` first. -/
def registered (ws : Workspace) (m : MachineRef) : List EntityRef :=
  (ws.machine m).registry.entities

/-- Writes to the journal. -/
def log (ws : Workspace) (level : Level) (message : String) : Workspace :=
  { ws with journal := ws.journal.write level message }

/-- Makes a machine that holds nothing but the state `#ALL`. Its message must be legal, and its id another one. -/
def newMachine (ws : Workspace) (head : Head) : Workspace × Except Fault MachineRef :=
  match head.ownMessage.elim (.ok ()) checkMessage with
  | .error fault => (ws, .error fault)
  | .ok () =>
    let m : MachineRef := ⟨ws.machines.length⟩
    let (all, grown) := ws.newEntity
      { id := allStateId, machine := some m, detail := .state [] [] (some (-1)) }
    match Registry.register { reserved := head.id } grown.kindOf allStateId all with
    | .error fault => (ws, .error fault)
    | .ok registry =>
      let machine : Machine := ⟨head, registry, all, fun _ => [], []⟩
      ({ grown with machines := grown.machines ++ [machine] }, .ok m)

/-- Changes the message of a machine's generated files. -/
def setMessage (ws : Workspace) (m : MachineRef) (message : String) :
    Workspace × Except Fault Unit :=
  match checkMessage message with
  | .error fault => (ws, .error fault)
  | .ok () =>
    (ws.modifyMachine m fun machine =>
      { machine with head := { machine.head with ownMessage := some message } }, .ok ())

/-- Records a warning about a machine and writes it to the journal. -/
def report (ws : Workspace) (m : MachineRef) (d : Diagnostic) : Workspace :=
  let ws := ws.modifyMachine m fun machine => { machine with warnings := machine.warnings ++ [d] }
  { ws with
    journal := ws.journal.within (ws.machine m).head.id fun j => j.write .warning d.what }

/-- Records several warnings, in order. -/
def reportAll (ws : Workspace) (m : MachineRef) (ds : List Diagnostic) : Workspace :=
  ds.foldl (fun ws d => ws.report m d) ws

/-! ## Adding entities -/

/-- What one may try to add to a machine. -/
inductive Candidate where
  | entity (ref : EntityRef)
  /-- A thing that is no entity, by the name of its type. -/
  | foreign (typeName : String)

/-- Adds one thing: registers its id, takes it over and appends it to the members of its kind. -/
def addOne (ws : Workspace) (m : MachineRef) : Candidate → Workspace × Except Fault Unit
  | .foreign typeName => (ws, .error (.notAddable typeName))
  | .entity r =>
    let e := ws.entity r
    if !Machine.holds e.kind then (ws, .error (.notAddable "Entity"))
    else
      match (ws.machine m).registry.register ws.kindOf e.id r with
      | .error fault => (ws, .error fault)
      | .ok registry =>
        let ws := ws.modifyMachine m fun machine => { machine with registry := registry }
        let ws := ws.modifyEntity r fun e => { e with machine := some m }
        let ws := ws.modifyMachine m fun machine => machine.join e.kind r
        (ws.log .debug s!"Added {e.label}", .ok ())

/-- Adds things one by one, up to the first that is refused. -/
def add (ws : Workspace) (m : MachineRef) : List Candidate → Workspace × Except Fault Unit
  | [] => (ws, .ok ())
  | c :: rest =>
    match ws.addOne m c with
    | (ws, .error fault) => (ws, .error fault)
    | (ws, .ok ()) => ws.add m rest

/-! ## Numbers of states -/

/-- Numbers the states of a machine from 1 in the order of their addition, and `#ALL` with -1. -/
def renumber (ws : Workspace) (m : MachineRef) : Workspace :=
  let ws := ((ws.members m .state).zipIdx 1).foldl
    (fun ws (r, n) => ws.modifyEntity r fun e => e.withNumber (some n)) ws
  ws.modifyEntity (ws.machine m).allState fun e => e.withNumber (some (-1))

/-- The number of a state, for sorting. One that is missing counts as 0, which can only matter to states of other
machines. -/
def numberOf (ws : Workspace) (r : EntityRef) : Int := (ws.entity r).number.getD 0

/-- States in the order of their numbers. -/
def byNumber (ws : Workspace) (states : List EntityRef) : List EntityRef :=
  sorted (fun a b => ws.numberOf a ≤ ws.numberOf b) states

/-- The concrete states in the order of their numbers, numbered anew. -/
def states (ws : Workspace) (m : MachineRef) : List EntityRef × Workspace :=
  let ws := ws.renumber m
  (ws.byNumber (ws.members m .state), ws)

/-- The state `#ALL` and the concrete states in the order of their numbers, numbered anew. -/
def rawStates (ws : Workspace) (m : MachineRef) : List EntityRef × Workspace :=
  let ws := ws.renumber m
  (ws.byNumber (ws.members m .state ++ [(ws.machine m).allState]), ws)

/-- The concrete states under their ids, numbered anew. -/
def statesById (ws : Workspace) (m : MachineRef) : List (String × EntityRef) × Workspace :=
  let (states, ws) := ws.states m
  (Assoc.ofList (states.map fun r => ((ws.entity r).id, r)), ws)

/-! ## Looking up -/

/-- The entity of an id, of any kind or of the kind that is wanted. -/
def lookup (ws : Workspace) (m : MachineRef) (id : Option String) (wanted : Option String) :
    Except Fault (Option EntityRef) :=
  (ws.machine m).registry.lookup ws.kindOf id wanted

/-- The entity of an id and kind. -/
def find (ws : Workspace) (m : MachineRef) (kind : Kind) (id : Option String) :
    Except Fault (Option EntityRef) :=
  ws.lookup m id (some kind.name)

/-- Looks an id up in the machine that an entity belongs to; a detached entity finds nothing. -/
def findFrom (ws : Workspace) (e : Entity) (kind : Kind) (id : Option String) :
    Except Fault (Option EntityRef) :=
  match e.machine with
  | some m => ws.find m kind id
  | none => .ok none

/-- The entities of a list of ids, in order. Unknown ids are skipped. -/
def findAll (ws : Workspace) (e : Entity) (kind : Kind) (ids : List String) :
    Except Fault (List EntityRef) :=
  match ids with
  | [] => .ok []
  | id :: rest => do
    let found ← ws.findFrom e kind (some id)
    let others ← ws.findAll e kind rest
    return found.toList ++ others

end Workspace

end StateMachine
