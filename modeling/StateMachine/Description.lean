import StateMachine.Check
import StateMachine.Description.Record
import StateMachine.Yaml

/-!
# Descriptions of machines

A description is a mapping with a header `machine`, texts for generated files, and one list of records for each kind
of entity. Building it adds everything in a fixed order of kinds, up to the first fault.
-/

namespace StateMachine

namespace Description

/-! ## Entities -/

/-- The sections of a description, in the order in which they are built. -/
inductive Section where
  | classes
  | actions
  | states
  | events
  | arcs
  deriving DecidableEq, Repr

def Section.all : List Section := [.classes, .actions, .states, .events, .arcs]

def Section.name : Section → String
  | classes => "classes"
  | actions => "actions"
  | states => "states"
  | events => "events"
  | arcs => "arcs"

/-- A class. -/
def readClass (r : Record) : Except Fault Entity := do
  return { ← r.entity [] none with detail := .bundle }

/-- An action with its code. -/
def readAction (r : Record) : Except Fault Entity := do
  let e ← r.entity ["code"] none
  let code ← r.text? "code"
  return { e with detail := .action code }

/-- A state with the actions of entering and leaving it. -/
def readState (r : Record) : Except Fault Entity := do
  let e ← r.entity ["entry", "exit"] none
  let entry ← r.texts "entry"
  let leave ← r.texts "exit"
  return { e with detail := .state entry leave none }

/-- An event with its type; none is the empty type. -/
def readEvent (r : Record) : Except Fault Entity := do
  let e ← r.entity ["type"] none
  let type ← r.text? "type"
  return { e with detail := .event (some (type.getD "")) }

/-- The id of an arc that has none of its own: origin, event, target and guard, joined by two underscores. -/
def arcId (fromId eventId toId : String) (guard : Option String) : String :=
  s!"{fromId}__{eventId}__{toId}" ++ (guard.map fun g => s!"__{g}").getD ""

/-- An arc. -/
def readArc (r : Record) : Except Fault Entity := do
  let fromId ← r.text "from"
  let toId ← r.text "to"
  let eventId ← r.text "event"
  let guard ← r.text? "guard"
  let own ← r.text? "id"
  let id := own.getD (arcId fromId eventId toId guard)
  let e ← r.entity ["from", "to", "event", "guard", "handlers"] (some id)
  let handlerIds ← r.texts "handlers"
  return { e with
    detail := .arc
      { fromId := some fromId, toId := some toId, eventId := some eventId, guard, handlerIds } }

/-- The entity that a record of a section describes. -/
def Section.read : Section → Record → Except Fault Entity
  | classes => readClass
  | actions => readAction
  | states => readState
  | events => readEvent
  | arcs => readArc

/-! ## The head -/

/-- The header of a description. -/
def header (data : Dict) (source : String) : Except Fault Record :=
  let v := (Value.field? data "machine").getD .null
  let place := s!"{source}: machine"
  match v with
  | .map entries => .ok ⟨entries, place, source⟩
  | v =>
    if v.truthy then .error (.wrongType "machine" "mapping" v.typeName (some source))
    else .ok ⟨[], place, source⟩

/-- The head of a machine. The texts for generated files stand beside the header. -/
def readHead (data : Dict) (source : String) : Except Fault Head := do
  let head ← header data source
  let root : Record := ⟨data, source, source⟩
  let id ← head.text? "id"
  let description ← head.text? "description"
  let preamble ← root.text? "preamble"
  let postamble ← root.text? "postamble"
  let modes ← head.texts "modes"
  let ownMessage ← head.text? "autogenerated_message"
  let attrs ← head.attrs ["autogenerated_message", "modes"]
  return { id, description, location := some head.location, preamble, postamble, modes,
           ownMessage, attrs }

/-! ## Building -/

/-- The record at a place of a section. -/
def recordAt (s : Section) (source : String) (index : Nat) (v : Value) : Except Fault Record :=
  let place := s!"{source}: {s.name}[{index}]"
  match v with
  | .map entries => .ok ⟨entries, place, source⟩
  | v => .error (.wrongType s.name "list of mappings" v.typeName (some place))

/-- Adds the entities of some records, each before the next one is read. -/
def addRecords (ws : Workspace) (m : MachineRef) (s : Section) (source : String) :
    Nat → List Value → Workspace × Except Fault Unit
  | _, [] => (ws, .ok ())
  | index, v :: rest =>
    match (recordAt s source index v).bind s.read with
    | .error fault => (ws, .error fault)
    | .ok e =>
      let (r, ws) := ws.newEntity e
      match ws.add m [.entity r] with
      | (ws, .error fault) => (ws, .error fault)
      | (ws, .ok ()) => addRecords ws m s source (index + 1) rest

/-- The records of a section. -/
def sectionItems (data : Dict) (s : Section) (source : String) : Except Fault (List Value) :=
  match (Value.field? data s.name).getD .null with
  | .null => .ok []
  | .list xs => .ok xs
  | v => .error (.wrongType s.name "list" v.typeName (some source))

/-- Adds the entities of some sections. -/
def addSections (ws : Workspace) (m : MachineRef) (data : Dict) (source : String) :
    List Section → Workspace × Except Fault Unit
  | [] => (ws, .ok ())
  | s :: rest =>
    match sectionItems data s source with
    | .error fault => (ws, .error fault)
    | .ok items =>
      match addRecords ws m s source 0 items with
      | (ws, .error fault) => (ws, .error fault)
      | (ws, .ok ()) => addSections ws m data source rest

/-- Builds the machine that a description describes. On demand it must be valid. -/
def build (ws : Workspace) (data : Dict) (source : String) (validate : Bool) :
    Workspace × Except Fault MachineRef :=
  match readHead data source with
  | .error fault => (ws, .error fault)
  | .ok head =>
    match ws.newMachine head with
    | (ws, .error fault) => (ws, .error fault)
    | (ws, .ok m) =>
      match addSections ws m data source Section.all with
      | (ws, .error fault) => (ws, .error fault)
      | (ws, .ok ()) =>
        if validate then
          match ws.assertValid m with
          | (ws, .error fault) => (ws, .error fault)
          | (ws, .ok ()) => (ws, .ok m)
        else (ws, .ok m)

/-! ## Files -/

/-- A path without empty parts and parts that stay where they are. -/
def plainPath (path : String) : String :=
  let parts := (Yaml.pieces '/' path.toList).filter fun p => !p.isEmpty && p != ['.']
  let body := "/".intercalate (parts.map String.ofList)
  if path.toList.head? == some '/' then "/" ++ body
  else if body.isEmpty then "." else body

/-- The description that the value of a file is. What counts as nothing describes nothing. -/
def ofValue (path : String) : Value → Except Fault Dict
  | .map entries => .ok entries
  | v =>
    if v.truthy then
      .error (.wrongType "(root)" "mapping/object" v.typeName (some (plainPath path)))
    else .ok []

/-- Builds the machine that the value of a description file describes. -/
def loadValue (ws : Workspace) (path : String) (v : Value) (validate : Bool) : Workspace × Except Fault MachineRef :=
  match ofValue path v with
  | .error fault => (ws, .error fault)
  | .ok data => build ws data path validate

/-- Reads the text of a description file. Its mappings know their lines. -/
def readValue (path text : String) : Except Fault Value :=
  match Yaml.read? true text with
  | none => .error (.unreadableDescription (plainPath path))
  | some v => .ok v

/-- Reads the description in the text of a file. -/
def read (path text : String) : Except Fault Dict := (readValue path text).bind (ofValue path)

/-- Builds the machine that the text of a description file describes. -/
def load (ws : Workspace) (path text : String) (validate : Bool) :
    Workspace × Except Fault MachineRef :=
  match readValue path text with
  | .error fault => (ws, .error fault)
  | .ok v => loadValue ws path v validate

end Description

end StateMachine
