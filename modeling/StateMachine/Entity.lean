import StateMachine.Text.Upper
import StateMachine.Text.Letter
import StateMachine.Value.Display

/-!
# Entities

States, events, arcs, actions and classes. All of them have an id, may carry attributes and inherit from classes,
and belong to at most one machine at a time. Ids of other entities are kept as texts and looked up when needed.
-/

namespace StateMachine

/-! ## Kinds and names -/

/-- The kinds of entities. A `plain` one is of no kind that a machine holds; a `bundle` is a class. -/
inductive Kind where
  | plain
  | state
  | event
  | arc
  | action
  | bundle
  deriving DecidableEq, Repr, Inhabited

/-- The word for a kind in texts. -/
def Kind.name : Kind → String
  | plain => "entity"
  | state => "state"
  | event => "event"
  | arc => "arc"
  | action => "action"
  | bundle => "class"

/-- The id of the state that stands for every state. -/
def allStateId : String := "#ALL"

/-- The name of the numeric constant for an id: what is no word character becomes an underscore, and all is put in
upper case. -/
def defaultEnumId (id : String) : String :=
  Text.upper (String.ofList (id.toList.map fun c => if Text.isWord c then c else '_'))

/-- Where an entity was declared. -/
structure Location where
  file : String
  line : Value := .null
  deriving Inhabited

/-- File and line, or the file alone where no line is known. -/
def Location.render (l : Location) : String :=
  match l.line with
  | .null => l.file
  | line => s!"{l.file}:{line.display}"

/-! ## References -/

/-- An entity of a workspace. Two references are equal exactly when they name the same object. -/
structure EntityRef where
  index : Nat
  deriving DecidableEq, Repr, Inhabited

/-- A machine of a workspace. -/
structure MachineRef where
  index : Nat
  deriving DecidableEq, Repr, Inhabited

/-! ## Contents -/

/-- What an arc says: when the event arrives in the state `from`, go to the state `to` if the guard holds. -/
structure Transition where
  fromId : Option String := none
  toId : Option String := none
  eventId : Option String := none
  guard : Option String := none
  handlerIds : List String := []
  deriving Inhabited

/-- What an entity has beyond its common fields. -/
inductive Detail where
  | plain
  | state (entryIds exitIds : List String) (number : Option Int)
  | event (type : Option String)
  | arc (transition : Transition)
  | action (code : Option String)
  | bundle
  deriving Inhabited

/-- The kind of an entity with these contents. -/
def Detail.kind : Detail → Kind
  | plain => .plain
  | state .. => .state
  | event _ => .event
  | arc _ => .arc
  | action _ => .action
  | bundle => .bundle

/-- An entity. `machine` is the machine it belongs to. -/
structure Entity where
  id : String
  description : Option String := none
  location : Option Location := none
  enumId : Option String := none
  classIds : List String := []
  attrs : Dict := []
  machine : Option MachineRef := none
  detail : Detail
  deriving Inhabited

namespace Entity

/-- An entity that names no constant of its own gets the default one. -/
def named (e : Entity) : Entity :=
  { e with enumId := some (e.enumId.getD (defaultEnumId e.id)) }

def kind (e : Entity) : Kind := e.detail.kind

/-- Kind and id, as texts name an entity. -/
def label (e : Entity) : String := s!"{e.kind.name} '{e.id}'"

/-- The place of declaration in parentheses, if it is known. -/
def whereText (e : Entity) : String :=
  match e.location with
  | some l => s!" ({l.render})"
  | none => ""

/-- The contents of an arc; other entities have no endpoints, event, guard or handlers. -/
def transition (e : Entity) : Transition :=
  match e.detail with
  | .arc t => t
  | _ => {}

/-- The number of a state, if it has been numbered. -/
def number (e : Entity) : Option Int :=
  match e.detail with
  | .state _ _ n => n
  | _ => none

/-- The actions run on entering a state. -/
def entryIds (e : Entity) : List String :=
  match e.detail with
  | .state ids _ _ => ids
  | _ => []

/-- The actions run on leaving a state. -/
def exitIds (e : Entity) : List String :=
  match e.detail with
  | .state _ ids _ => ids
  | _ => []

/-- The type of an event. -/
def eventType (e : Entity) : Option String :=
  match e.detail with
  | .event type => type
  | _ => none

/-- The code of an action. -/
def code (e : Entity) : Option String :=
  match e.detail with
  | .action code => code
  | _ => none

/-- Gives a state its number. -/
def withNumber (e : Entity) (n : Option Int) : Entity :=
  match e.detail with
  | .state entry exit _ => { e with detail := .state entry exit n }
  | _ => e

/-- Whether this is the state that stands for every state. -/
def isAllState (e : Entity) : Bool := e.id == allStateId

/-- Whether an arc leaves every state: its origin is `#ALL` in any letter case. -/
def leavesAll (e : Entity) : Bool :=
  match e.transition.fromId with
  | some id => Text.upper id == allStateId
  | none => false

/-- Whether an arc is for an event of this id, in any letter case. -/
def isOn (e : Entity) (eventId : String) : Bool :=
  match e.transition.eventId with
  | some id => Text.upper id == Text.upper eventId
  | none => false

end Entity

end StateMachine
