import StateMachine.Workspace

/-!
# Inheritance from classes

An entity inherits from the classes that it names, in the machine it belongs to, and these inherit in turn. Classes
may name each other in circles: a search never enters an entity twice.
-/

namespace StateMachine.Workspace

/-- The classes that an entity names, in order. -/
def classesOf (ws : Workspace) (r : EntityRef) : Except Fault (List EntityRef) :=
  ws.findAll (ws.entity r) .bundle (ws.entity r).classIds

/-- The actions behind the ids of an entity, in order. -/
def actionsOf (ws : Workspace) (r : EntityRef) (ids : List String) :
    Except Fault (List EntityRef) :=
  ws.findAll (ws.entity r) .action ids

/-- The actions of an arc. -/
def handlersOf (ws : Workspace) (r : EntityRef) : Except Fault (List EntityRef) :=
  ws.actionsOf r (ws.entity r).transition.handlerIds

/-- The actions run on entering a state. -/
def entryHandlersOf (ws : Workspace) (r : EntityRef) : Except Fault (List EntityRef) :=
  ws.actionsOf r (ws.entity r).entryIds

/-- The actions run on leaving a state. -/
def exitHandlersOf (ws : Workspace) (r : EntityRef) : Except Fault (List EntityRef) :=
  ws.actionsOf r (ws.entity r).exitIds

/-- Searches an attribute on an entity and then on its classes in depth, with the entities entered so far. The
fuel bounds the depth. -/
def searchAttr (ws : Workspace) (name : String) :
    Nat → List EntityRef → EntityRef → Except Fault (Option Value × List EntityRef)
  | 0, seen, _ => .ok (none, seen)
  | fuel + 1, seen, r =>
    if seen.contains r then .ok (none, seen)
    else
      match Value.field? (ws.entity r).attrs name with
      | some v => .ok (some v, r :: seen)
      | none => do
        let classes ← ws.classesOf r
        classes.foldlM (fun (found, seen) c =>
          match found with
          | some v => .ok (some v, seen)
          | none => ws.searchAttr name fuel seen c) (none, r :: seen)

/-- An attribute of an entity, its own or inherited. As no entity is entered twice, no path is longer than the
number of entities. -/
def attr? (ws : Workspace) (r : EntityRef) (name : String) : Except Fault (Option Value) :=
  (ws.searchAttr name (ws.entities.length + 1) [] r).map (·.1)

/-- An attribute of an entity, or a default where neither it nor its classes have one. -/
def attr (ws : Workspace) (r : EntityRef) (name : String) (default : Value) :
    Except Fault Value :=
  (ws.attr? r name).map (·.getD default)

end StateMachine.Workspace
