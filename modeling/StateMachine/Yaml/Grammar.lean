import StateMachine.Yaml.Node
import StateMachine.Yaml.Token

/-!
# From tokens to nodes

The grammar of documents. A node may be named by an anchor and stand again where an alias of that name is, also inside
of itself; an anchor may be given once. The recursion is bounded by the number of tokens, each of which is taken once.
-/

namespace StateMachine.Yaml

/-- What is read so far, and what is left. -/
structure Grammar.State where
  tokens : List Token
  nodes : Graph := #[]
  /-- The nodes with an anchor. -/
  anchors : List (String × NodeId) := []
  /-- What handles of tags stand for. -/
  handles : List (String × String) := []

/-- A step of reading, which fails if the tokens do not fit. -/
abbrev Grammar := StateT Grammar.State Option

namespace Grammar

/-- The handles that every document has. -/
def defaultHandles : List (String × String) :=
  [("!", "!"), ("!!", Tag.languageBeginning)]

/-- The next token. -/
def peek : Grammar TokenKind :=
  return ((← get).tokens.head?.map (·.kind)).getD .streamEnd

/-- The line of the next token. -/
def line : Grammar Nat := return ((← get).tokens.head?.map (·.line)).getD 0

/-- Drops the next token. -/
def advance : Grammar Unit := modify fun d => { d with tokens := d.tokens.drop 1 }

/-- Whether the next token is one of some kinds. -/
def peekIn (kinds : List TokenKind) : Grammar Bool := return kinds.contains (← peek)

/-! ## Properties -/

/-- An anchor and a tag, in any order, each at most once. -/
def properties : Grammar (Option String × Option (Option String × String)) := do
  match ← peek with
  | .anchor name => do
    advance
    match ← peek with
    | .tag handle suffix => do
      advance
      return (some name, some (handle, suffix))
    | _ => return (some name, none)
  | .tag handle suffix => do
    advance
    match ← peek with
    | .anchor name => do
      advance
      return (some name, some (handle, suffix))
    | _ => return (none, some (handle, suffix))
  | _ => return (none, none)

/-- A tag in full. Its handle must be known. -/
def fullTag : Option (Option String × String) → Grammar (Option String)
  | none => return none
  | some (none, suffix) => return some suffix
  | some (some handle, suffix) => do
    let beginning ← ((← get).handles.lookup handle : Option String)
    return some (beginning ++ suffix)

/-- Takes a name for a node that begins. -/
def begin : Grammar NodeId :=
  modifyGet fun d => (d.nodes.size, { d with nodes := d.nodes.push .nothing })

/-- Gives an anchor to a node. It must be new. -/
def anchorNode (anchor : Option String) (id : NodeId) : Grammar Unit := do
  let d ← get
  if anchor.any fun name => d.anchors.any (·.1 == name) then failure
  set { d with anchors := (anchor.map fun name => (name, id)).toList ++ d.anchors }

/-- Puts down what a node is. -/
def finish (id : NodeId) (node : Node) : Grammar NodeId := do
  modify fun d => { d with nodes := d.nodes.change id fun _ => node }
  return id

/-- A new node for a place where nothing was written. -/
def nothing : Grammar NodeId := begin

/-- The tag of a scalar. One that says nothing leaves the choice to the text, as does a plain scalar without tag. -/
def scalarTag (uri : Option String) (plain : Bool) (text : String) : Tag :=
  match uri with
  | none => if plain then .ofPlain text else .str
  | some "!" => .ofPlain text
  | some uri => .ofUri uri

/-- The tag of a collection. -/
def collectionTag (uri : Option String) (default : Tag) : Tag :=
  match uri with
  | none | some "!" => default
  | some uri => .ofUri uri

/-! ## Nodes -/

mutual
/-- A node. Block collections may stand where `block` says so; a sequence without indentation of its own may be the
value of a mapping. -/
def node : Nat → Bool → Bool → Grammar NodeId
  | 0, _, _ => failure
  | fuel + 1, block, indentless => do
    match ← peek with
    | .alias name => do
      advance
      ((← get).anchors.lookup name : Option NodeId)
    | _ => do
      let line ← line
      let (anchor, tag) ← properties
      let uri ← fullTag tag
      let id ← begin
      anchorNode anchor id
      finish id (← content fuel block indentless line (anchor.isSome || uri.isSome) uri)

/-- What follows the properties of a node that begins on a line. Nothing may follow if there are properties. -/
def content : Nat → Bool → Bool → Nat → Bool → Option String → Grammar Node
  | 0, _, _, _, _, _ => failure
  | fuel + 1, block, indentless, line, hasProperties, uri => do
    let kind ← peek
    if indentless && kind == .blockEntry then
      return ⟨collectionTag uri .seq, .sequence (← indentlessItems fuel)⟩
    else if kind == .flowSequenceStart then do
      advance
      return ⟨collectionTag uri .seq, .sequence (← flowItems fuel true)⟩
    else if kind == .flowMappingStart then do
      advance
      return ⟨collectionTag uri .map, .mapping (← flowEntries fuel true) line⟩
    else if block && kind == .blockSequenceStart then do
      advance
      return ⟨collectionTag uri .seq, .sequence (← blockItems fuel)⟩
    else if block && kind == .blockMappingStart then do
      advance
      return ⟨collectionTag uri .map, .mapping (← blockEntries fuel) line⟩
    else
      match kind with
      | .scalar text plain => do
        advance
        return ⟨scalarTag uri plain text, .scalar text⟩
      | _ =>
        if hasProperties then return ⟨scalarTag uri true "", .scalar ""⟩ else failure

/-- A node, or nothing where one of some tokens comes next. -/
def nodeUnless : Nat → List TokenKind → Bool → Bool → Grammar NodeId
  | 0, _, _, _ => failure
  | fuel + 1, stops, block, indentless => do
    if ← peekIn stops then nothing else node fuel block indentless

/-- The items of a block sequence and its end. -/
def blockItems : Nat → Grammar (List NodeId)
  | 0 => failure
  | fuel + 1 => do
    match ← peek with
    | .blockEntry => do
      advance
      let item ← nodeUnless fuel [.blockEntry, .blockEnd] true false
      return item :: (← blockItems fuel)
    | .blockEnd => do
      advance
      return []
    | _ => failure

/-- The items of a sequence that is not indented. -/
def indentlessItems : Nat → Grammar (List NodeId)
  | 0 => failure
  | fuel + 1 => do
    match ← peek with
    | .blockEntry => do
      advance
      let item ← nodeUnless fuel [.blockEntry, .key, .value, .blockEnd] true false
      return item :: (← indentlessItems fuel)
    | _ => return []

/-- The value after a key, up to one of some tokens. -/
def valueAfterKey : Nat → List TokenKind → Bool → Grammar NodeId
  | 0, _, _ => failure
  | fuel + 1, stops, block => do
    if (← peek) == .value then do
      advance
      nodeUnless fuel stops block block
    else nothing

/-- The entries of a block mapping and its end. -/
def blockEntries : Nat → Grammar (List (NodeId × NodeId))
  | 0 => failure
  | fuel + 1 => do
    match ← peek with
    | .key => do
      advance
      let key ← nodeUnless fuel [.key, .value, .blockEnd] true true
      let value ← valueAfterKey fuel [.key, .value, .blockEnd] true
      return (key, value) :: (← blockEntries fuel)
    | .blockEnd => do
      advance
      return []
    | _ => failure

/-- The items of a sequence in brackets and its end. An item may be a mapping of one entry without braces. -/
def flowItems : Nat → Bool → Grammar (List NodeId)
  | 0, _ => failure
  | fuel + 1, first => do
    if (← peek) == .flowSequenceEnd then do
      advance
      return []
    else do
      if !first then
        if (← peek) == .flowEntry then advance else failure
      let kind ← peek
      if kind == .flowSequenceEnd then do
        advance
        return []
      else if kind == .key then do
        let line ← line
        advance
        let key ← nodeUnless fuel [.value, .flowEntry, .flowSequenceEnd] false false
        let value ← valueAfterKey fuel [.flowEntry, .flowSequenceEnd] false
        let pair ← finish (← begin) ⟨.map, .mapping [(key, value)] line⟩
        return pair :: (← flowItems fuel false)
      else do
        let item ← node fuel false false
        return item :: (← flowItems fuel false)

/-- The entries of a mapping in braces and its end. -/
def flowEntries : Nat → Bool → Grammar (List (NodeId × NodeId))
  | 0, _ => failure
  | fuel + 1, first => do
    if (← peek) == .flowMappingEnd then do
      advance
      return []
    else do
      if !first then
        if (← peek) == .flowEntry then advance else failure
      let kind ← peek
      if kind == .flowMappingEnd then do
        advance
        return []
      else if kind == .key then do
        advance
        let key ← nodeUnless fuel [.value, .flowEntry, .flowMappingEnd] false false
        let value ← valueAfterKey fuel [.flowEntry, .flowMappingEnd] false
        return (key, value) :: (← flowEntries fuel false)
      else do
        let key ← node fuel false false
        let value ← nothing
        return (key, value) :: (← flowEntries fuel false)
end

/-! ## Documents -/

/-- Whether a token belongs to the document as a whole. -/
def isDocumentLevel : TokenKind → Bool
  | .version .. | .tagHandle .. | .unknownDirective | .documentStart | .documentEnd | .streamEnd => true
  | _ => false

/-- The directives of a document: at most one version, which must be 1, and handles, each once. -/
def directives : Nat → Bool → List (String × String) → Grammar (List (String × String))
  | 0, _, handles => return handles
  | fuel + 1, versioned, handles => do
    match ← peek with
    | .version major _ => do
      if versioned || major ≠ 1 then failure
      advance
      directives fuel true handles
    | .tagHandle handle beginning => do
      if handles.any (·.1 == handle) then failure
      advance
      directives fuel versioned (handles ++ [(handle, beginning)])
    | .unknownDirective => do
      advance
      directives fuel versioned handles
    | _ => return handles

/-- Nothing may follow a document but marks of its end. -/
def documentEnd : Grammar Unit := do
  modify fun d => { d with tokens := d.tokens.dropWhile (·.kind == .documentEnd) }
  if (← peek) != .streamEnd then failure

/-- The root of the only document, if there is one. -/
def root : Grammar (Option NodeId) := do
  let fuel := 4 * (← get).tokens.length + 4
  let kind ← peek
  if kind == .streamEnd then return none
  else if isDocumentLevel kind && kind != .documentEnd then do
    let handles ← directives fuel false []
    if (← peek) != .documentStart then failure
    advance
    modify fun d => { d with handles := handles ++ defaultHandles }
    let root ← if isDocumentLevel (← peek) then nothing else node fuel true false
    documentEnd
    return some root
  else do
    modify fun d => { d with handles := defaultHandles }
    let root ← node fuel true false
    documentEnd
    return some root

end Grammar

/-- The only document that tokens describe, if there is one. -/
def Document.ofTokens? (tokens : List Token) : Option (Option Document) :=
  (Grammar.root.run { tokens := tokens }).map fun (root, s) => root.map fun id => ⟨s.nodes, id⟩

end StateMachine.Yaml
