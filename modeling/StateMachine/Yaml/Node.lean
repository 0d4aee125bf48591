import StateMachine.Yaml.Number
import StateMachine.Yaml.Timestamp

/-!
# Nodes of a document

A document consists of scalars, sequences and mappings, each with a tag that says what it means. Scalars without a
tag get one from their text. Nodes have names, so that a node can stand at several places.
-/

namespace StateMachine.Yaml

/-! ## Tags -/

/-- The tags with a meaning. `merge` and `value` mark special keys, and have none by themselves. -/
inductive Tag where
  | null
  | bool
  | int
  | float
  | timestamp
  | binary
  | str
  | seq
  | map
  | set
  | omap
  | pairs
  | merge
  | value
  | unknown
  deriving DecidableEq, Repr, Inhabited

namespace Tag

/-- What the tags of the language begin with. -/
def languageBeginning : String := "tag:yaml.org,2002:"

/-- The names of the tags of the language. -/
def names : List (String × Tag) :=
  [("null", null), ("bool", bool), ("int", int), ("float", float), ("timestamp", timestamp),
   ("binary", binary), ("str", str), ("seq", seq), ("map", map), ("set", set), ("omap", omap),
   ("pairs", pairs), ("merge", merge), ("value", value)]

/-- The tag that is written in full. -/
def ofUri (uri : String) : Tag :=
  ((names.map fun (name, tag) => (languageBeginning ++ name, tag)).lookup uri).getD unknown

/-- The words for the truth values, in the spellings that plain scalars may have. -/
def boolWords : List String :=
  ["yes", "Yes", "YES", "no", "No", "NO", "true", "True", "TRUE", "false", "False", "FALSE",
   "on", "On", "ON", "off", "Off", "OFF"]

/-- The words for null. -/
def nullWords : List String := ["", "~", "null", "Null", "NULL"]

/-- A text without the line feed at its end, unless it is nothing else. -/
def withoutFinalBreak (cs : List Char) : List Char :=
  match cs.reverse with
  | '\n' :: c :: before => (c :: before).reverse
  | _ => cs

/-- The tag of a scalar that is written plainly. A line feed at its end makes no difference. -/
def ofPlain (text : String) : Tag :=
  let cs := withoutFinalBreak text.toList
  let word := String.ofList cs
  if boolWords.contains word then bool
  else if isFloat cs then float
  else if isInt cs then int
  else if word = "<<" then merge
  else if nullWords.contains word then null
  else if Timestamp.isPlain cs then timestamp
  else if word = "=" then value
  else if ["!", "&", "*"].contains word then unknown
  else str

end Tag

/-! ## Nodes -/

/-- Names a node of a document. -/
abbrev NodeId := Nat

/-- What a node holds. A mapping knows the line on which it begins, from 0. -/
inductive Content where
  | scalar (text : String)
  | sequence (items : List NodeId)
  | mapping (entries : List (NodeId × NodeId)) (line : Nat)
  deriving Inhabited, Repr

/-- A node: its tag and what it holds. -/
structure Node where
  tag : Tag
  content : Content
  deriving Inhabited, Repr

/-- The node that stands where nothing was written. -/
def Node.nothing : Node := ⟨.null, .scalar ""⟩

/-! ## Documents -/

/-- The nodes of a document. A node may stand at many places, also inside of itself. -/
abbrev Graph := Array Node

namespace Graph

/-- The node of a name. -/
def node (g : Graph) (id : NodeId) : Node := g[id]?.getD .nothing

/-- Changes one node. -/
def change (g : Graph) (id : NodeId) (f : Node → Node) : Graph := g.setIfInBounds id (f (g.node id))

/-- The keys and values of a mapping. -/
def entries (g : Graph) (id : NodeId) : List (NodeId × NodeId) :=
  match (g.node id).content with
  | .mapping entries _ => entries
  | _ => []

/-- Puts other keys and values into a mapping. -/
def setEntries (g : Graph) (id : NodeId) (entries : List (NodeId × NodeId)) : Graph :=
  g.change id fun n =>
    match n.content with
    | .mapping _ line => { n with content := .mapping entries line }
    | _ => n

/-- Whether a node is a mapping. -/
def isMapping (g : Graph) (id : NodeId) : Bool :=
  match (g.node id).content with
  | .mapping .. => true
  | _ => false

end Graph

/-- A document: its nodes, and the one that holds all others. -/
structure Document where
  nodes : Graph
  root : NodeId

end StateMachine.Yaml
