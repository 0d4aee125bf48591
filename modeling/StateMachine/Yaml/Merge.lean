import StateMachine.Yaml.Node

/-!
# Taking over entries

A mapping takes over the entries of the mappings under its keys `<<`, before its own. This is done once, in place:
whoever looks at the mapping later sees the entries that it took over, and the keys `=` as plain texts.
-/

namespace StateMachine.Yaml

/-- A change of a document, which fails where the document makes no sense. -/
abbrev Rewriting := StateT Graph Option

namespace Graph

/-- Whether an entry asks for the entries of others. -/
def isMerge (g : Graph) (entry : NodeId × NodeId) : Bool := (g.node entry.1).tag = .merge

/-- The first entry that asks for the entries of others, and the rest. -/
def splitMerge? (g : Graph) (entries : List (NodeId × NodeId)) :
    Option (NodeId × List (NodeId × NodeId)) :=
  match entries.dropWhile (!g.isMerge ·) with
  | (_, source) :: after => some (source, entries.takeWhile (!g.isMerge ·) ++ after)
  | [] => none

/-- Makes a text of a key `=`. -/
def plainKey (g : Graph) (id : NodeId) : Graph :=
  g.change id fun n => if n.tag = .value then { n with tag := .str } else n

/-- The number of entries that ask for the entries of others, which bounds their replacement. -/
def merges (g : Graph) : Nat :=
  g.foldl (fun n node =>
    match node.content with
    | .mapping entries _ => n + (entries.filter g.isMerge).length
    | _ => n) 0

end Graph

/-- Lets a mapping take over entries, after those that it has taken already. A key `<<` is dropped before the mappings
under it are looked at. Of several mappings the first wins, so it comes last. -/
def takeOver : Nat → NodeId → List (NodeId × NodeId) → Rewriting Unit
  | 0, _, _ => failure
  | fuel + 1, id, taken => do
    let g ← get
    match g.splitMerge? (g.entries id) with
    | none => set (((g.entries id).foldl (fun g (k, _) => g.plainKey k) g).setEntries id (taken ++ g.entries id))
    | some (source, rest) => do
      set (g.setEntries id rest)
      match (g.node source).content with
      | .mapping .. => do
        takeOver fuel source []
        takeOver fuel id (taken ++ (← get).entries source)
      | .sequence sources => do
        let groups ← sources.mapM fun s => do
          if !(← get).isMapping s then failure
          takeOver fuel s []
          return (← get).entries s
        takeOver fuel id (taken ++ groups.reverse.flatten)
      | .scalar _ => failure

/-- Lets a mapping take over all entries that it asks for. -/
def takeOverAll (id : NodeId) : Rewriting Unit := do takeOver ((← get).merges + 1) id []

end StateMachine.Yaml
