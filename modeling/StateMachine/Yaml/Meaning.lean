import StateMachine.Yaml.Binary
import StateMachine.Yaml.Merge

/-!
# What documents mean

The value of a document, by the tags of its nodes. Each node has one value, wherever it stands. Scalars get theirs when
they are met; collections are looked into later, in the order in which they were met, and a mapping takes over the
entries that it asks for only then. What comes from mappings may be lined: each then has an entry with the line on which
it begins.
-/

namespace StateMachine.Yaml

/-- The key of the line of a mapping. -/
def lineKey : String := "__line__"

/-! ## Scalars -/

/-- The truth value that a word stands for. -/
def readBool? (text : String) : Option Bool :=
  let word := String.ofList (text.toList.map Char.toLower)
  if ["yes", "true", "on"].contains word then some true
  else if ["no", "false", "off"].contains word then some false
  else none

/-- The value of a number. What is written `.nan` is one number throughout; other undefined numbers are as many as
there are nodes. -/
def floatValue? (id : NodeId) (cs : List Char) : Option Value :=
  (readFloat? cs).map fun x => .ofFloat x (some (if isUndefined cs then 0 else id + 1))

/-- The value of a scalar. -/
def scalarValue? (id : NodeId) (tag : Tag) (text : String) : Option Value :=
  match tag with
  | .null => some .null
  | .str => some (.text text)
  | .bool => (readBool? text).map .bool
  | .int => (readInt? text.toList).map .int
  | .float => floatValue? id text.toList
  | .timestamp => (Timestamp.read? (Tag.withoutFinalBreak text.toList)).bind (·.value?)
  | .binary => (readBinary? text.toList).map .bytes
  | _ => none

theorem isScalar_of_scalarValue? {id : NodeId} {tag : Tag} {text : String} {v : Value}
    (h : scalarValue? id tag text = some v) : v.isScalar = true := by
  unfold scalarValue? at h
  split at h
  case h_1 | h_2 => exact Option.some.inj h ▸ rfl
  case h_3 | h_4 | h_7 =>
    obtain ⟨_, _, rfl⟩ := Option.map_eq_some_iff.mp h
    rfl
  case h_5 =>
    obtain ⟨_, _, rfl⟩ := Option.map_eq_some_iff.mp h
    exact Value.isScalar_ofFloat _ _
  case h_6 =>
    obtain ⟨t, _, ht⟩ := Option.bind_eq_some_iff.mp h
    exact Timestamp.isScalar_of_value? ht
  case h_8 => cases h

namespace Graph

/-- The text of a scalar. A mapping stands for the scalar under its first key `=`. The search ends where a mapping
holds itself. -/
def textWithin? (g : Graph) : Nat → NodeId → Option String
  | 0, _ => none
  | depth + 1, id =>
    match (g.node id).content with
    | .scalar text => some text
    | .sequence _ => none
    | .mapping entries _ =>
      (entries.find? fun (k, _) => (g.node k).tag = .value).bind fun (_, v) => g.textWithin? depth v

/-- The text of a scalar, or of a mapping that stands for one. -/
def text? (g : Graph) (id : NodeId) : Option String := g.textWithin? (g.size + 1) id

end Graph

/-! ## Collections -/

/-- What is known of the value of a node. A collection is known by the nodes that it holds. -/
inductive Shape where
  /-- A value that holds no others. -/
  | plain (v : Value) (h : v.isScalar = true)
  /-- A collection that was not looked into. -/
  | closed
  | list (items : List NodeId)
  | pairs (items : List (NodeId × NodeId))
  | set (keys : List Value)
  | map (entries : List (Value × NodeId)) (line : Nat)

/-- The document, what is known of its values, and the collections that were met since the last round, the last one
first. -/
structure Construction where
  nodes : Graph
  shapes : Array (Option Shape)
  met : List NodeId := []

/-- A step of finding values, which fails where a node has none. -/
abbrev Constructing := StateT Construction Option

namespace Constructing

/-- Puts down what the value of a node is. -/
def know (id : NodeId) (shape : Shape) : Constructing Unit :=
  modify fun c => { c with shapes := c.shapes.setIfInBounds id (some shape) }

/-- Looks at a node that stands somewhere. The first time a scalar gets its value. -/
def meet (id : NodeId) : Constructing Unit := do
  let c ← get
  match c.shapes[id]?.join, (c.nodes.node id).tag with
  | some _, _ => return ()
  | none, .seq | none, .map | none, .set | none, .omap | none, .pairs => do
    know id .closed
    modify fun c => { c with met := id :: c.met }
  | none, tag => do
    let text ← (c.nodes.text? id : Option String)
    match h : scalarValue? id tag text with
    | some value => know id (.plain value (isScalar_of_scalarValue? h))
    | none => failure

/-- The value of a key that was met. Collections are no keys. -/
def keyValue (id : NodeId) : Constructing Value := do
  match (← get).shapes[id]?.join with
  | some (.plain v _) => return v
  | _ => failure

/-- The keys of a mapping and the nodes of their values. Of equal keys the first stays, with the last value. -/
def entriesOf (id : NodeId) : Constructing (List (Value × NodeId)) := do
  let c ← get
  let ((), nodes) ← ((takeOverAll id).run c.nodes : Option (Unit × Graph))
  set { c with nodes := nodes }
  (nodes.entries id).foldlM (fun entries (k, v) => do
    meet k
    let key ← keyValue k
    meet v
    return Assoc.put key v entries) []

/-- The only key of a mapping, and the node of its value. -/
def onlyEntry (id : NodeId) : Constructing (NodeId × NodeId) := do
  match (← get).nodes.entries id with
  | [(k, v)] => do
    meet k
    meet v
    return (k, v)
  | _ => failure

/-- Looks into a collection. -/
def lookInto (id : NodeId) : Constructing Unit := do
  let n := (← get).nodes.node id
  match n.tag, n.content with
  | .seq, .sequence items => do
    items.forM meet
    know id (.list items)
  | .map, .mapping _ line => do
    know id (.map (← entriesOf id) line)
  | .set, .mapping .. => do
    let entries ← entriesOf id
    know id (.set (entries.map (·.1)))
  | .omap, .sequence items | .pairs, .sequence items => do
    know id (.pairs (← items.mapM onlyEntry))
  | _, _ => failure

/-- Looks into all collections that were met, round by round. -/
def openAll : Nat → Constructing Unit
  | 0 => return ()
  | rounds + 1 => do
    let met := (← get).met
    if met.isEmpty then return ()
    else
      modify fun c => { c with met := [] }
      met.reverse.forM lookInto
      openAll rounds

end Constructing

/-! ## Values -/

/-- How often a node that holds itself is unfolded inside of itself. -/
def unfoldings : Nat := 3

/-- The members of a set with the key of the line, which all that comes from mappings gets. -/
def linedMembers (keys : List Value) : List Value :=
  if keys.any (· == .text lineKey) then keys else keys ++ [.text lineKey]

/-- The value of a node inside of others, with lines or without. Where a node was unfolded often enough it is left
empty. -/
def Construction.valueInside? (c : Construction) (lined : Bool) : Nat → List NodeId → NodeId → Option Value
  | 0, _, _ => none
  | depth + 1, outer, id =>
    let isOpen := outer.count id < unfoldings
    let value? := c.valueInside? lined depth (id :: outer)
    match c.shapes[id]?.join with
    | some (.plain v _) => some v
    | some (.list items) => do
      return .list (← (if isOpen then items else []).mapM value?)
    | some (.pairs items) => do
      let pairs ← (if isOpen then items else []).mapM fun ((k, v) : NodeId × NodeId) => do
        return Value.tuple [← value? k, ← value? v]
      return .list pairs
    | some (.set keys) => some (.set (if lined then linedMembers keys else keys))
    | some (.map entries line) => do
      let dict ← (if isOpen then entries else []).mapM fun ((k, v) : Value × NodeId) => do
        return (k, ← value? v)
      return .map (if lined then Assoc.put (.text lineKey) (.int (line + 1)) dict else dict)
    | some .closed | none => none

/-- What is known of a document when all its collections were looked into. -/
def Document.construction? (d : Document) : Option Construction :=
  let start : Construction := ⟨d.nodes, Array.replicate d.nodes.size none, []⟩
  let build : Constructing Unit := do
    Constructing.meet d.root
    Constructing.openAll (d.nodes.size + 1)
  (build.run start).map (·.2)

/-- The value of a document, with lines or without. -/
def Document.value? (d : Document) (lined : Bool) : Option Value :=
  d.construction?.bind fun c => c.valueInside? lined (unfoldings * d.nodes.size + 1) [] d.root

end StateMachine.Yaml
