import StateMachine.Entity
import StateMachine.Fault
import StateMachine.Sorting

/-!
# Machines and their ids

A machine holds entities of five kinds and the state `#ALL`, which stands for every state. All their ids share one
namespace, in which the machine's own id is reserved too.
-/

namespace StateMachine

/-! ## The registry -/

/-- The ids of a machine, in the order in which they were registered. -/
structure Registry where
  /-- The id of the machine, which no entity may take. -/
  reserved : Option String := none
  entries : List (String × EntityRef) := []
  deriving Inhabited

namespace Registry

/-- The entity of an id. -/
def find? (r : Registry) (id : String) : Option EntityRef := r.entries.lookup id

/-- Registers an entity under its id. An id that is taken is refused, whatever the kinds. -/
def register (r : Registry) (kindOf : EntityRef → Kind) (id : String) (entity : EntityRef) :
    Except Fault Registry :=
  match r.find? id with
  | some held =>
    .error (.duplicateIdentifier id (kindOf held).name (kindOf entity).name r.reserved)
  | none =>
    if r.reserved = some id then
      .error (.duplicateIdentifier id "machine" (kindOf entity).name r.reserved)
    else .ok { r with entries := r.entries ++ [(id, entity)] }

/-- The entity of an id, if there is one. If a kind is wanted, an entity of another kind is an error. -/
def lookup (r : Registry) (kindOf : EntityRef → Kind) (id : Option String)
    (wanted : Option String) : Except Fault (Option EntityRef) :=
  match id.bind fun i => (r.find? i).map fun e => (i, e) with
  | none => .ok none
  | some (i, entity) =>
    match wanted with
    | none => .ok (some entity)
    | some kind =>
      if (kindOf entity).name = kind then .ok (some entity)
      else .error (.kindMismatch i kind (kindOf entity).name)

/-- All entities, in the order of registration. -/
def entities (r : Registry) : List EntityRef := r.entries.map (·.2)

/-- All ids in ascending order. -/
def sortedIds (r : Registry) : List String := sorted textLe (r.entries.map (·.1))

end Registry

/-! ## The message of generated files -/

/-- What generated files say where a machine has no message of its own. -/
def defaultMessage : String := "AUTOGENERATED, DO NOT EDIT!!"

/-- The characters of a message: it must fit into a comment of any language. -/
def isMessageChar (c : Char) : Bool :=
  Text.isWord c || [' ', ':', '.', '\\', '/', '!', ',', '-'].contains c

/-- Accepts a message, or names its leftmost illegal character. -/
def checkMessage (message : String) : Except Fault Unit :=
  match message.toList.find? fun c => !isMessageChar c with
  | some c => .error (.illegalMessageCharacter message c.toString)
  | none => .ok ()

/-! ## Machines -/

/-- What a machine says about itself. -/
structure Head where
  id : Option String := none
  description : Option String := none
  location : Option Location := none
  preamble : Option String := none
  postamble : Option String := none
  modes : List String := []
  /-- The message of generated files as it was set, if it was. -/
  ownMessage : Option String := none
  attrs : Dict := []
  deriving Inhabited

/-- The message that generated files carry. An empty one counts as none. -/
def Head.message (h : Head) : String := (stated? h.ownMessage).getD defaultMessage

/-- A machine: its head, its ids, its entities by kind in the order of their addition, and the warnings reported
about it, oldest first. -/
structure Machine where
  head : Head
  registry : Registry
  /-- The state `#ALL`: registered, but not among the members. -/
  allState : EntityRef
  members : Kind → List EntityRef
  warnings : List Diagnostic
  deriving Inhabited

namespace Machine

/-- Whether machines hold entities of a kind. -/
def holds : Kind → Bool
  | .plain => false
  | _ => true

/-- Adds an entity to the members of its kind. -/
def join (m : Machine) (kind : Kind) (entity : EntityRef) : Machine :=
  { m with members := fun k => if k = kind then m.members k ++ [entity] else m.members k }

/-- The machine in one line: its id and how many entities it has. -/
def summary (m : Machine) : String :=
  let id := (Value.ofText? m.head.id).quoted
  let count (k : Kind) := (m.members k).length
  s!"Machine(id={id}, states={count .state}, events={count .event}, arcs={count .arc}, "
    ++ s!"actions={count .action}, classes={count .bundle})"

end Machine

end StateMachine
