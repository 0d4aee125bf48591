/-!
# Tokens of a document

What the characters of a YAML document mean by themselves: marks of structure, properties of nodes, and scalars.
-/

namespace StateMachine.Yaml

/-- The tokens of YAML. -/
inductive TokenKind where
  /-- A version of the language. -/
  | version (major minor : Nat)
  /-- A handle that stands for the beginning of tags. -/
  | tagHandle (handle beginning : String)
  /-- A directive that means nothing here. -/
  | unknownDirective
  | documentStart
  | documentEnd
  | streamEnd
  | blockSequenceStart
  | blockMappingStart
  | blockEnd
  | flowSequenceStart
  | flowSequenceEnd
  | flowMappingStart
  | flowMappingEnd
  | blockEntry
  | flowEntry
  | key
  | value
  | alias (name : String)
  | anchor (name : String)
  | tag (handle : Option String) (suffix : String)
  | scalar (text : String) (plain : Bool)
  deriving DecidableEq, Repr, Inhabited

/-- A token and the line on which it begins, from 0. -/
structure Token where
  kind : TokenKind
  line : Nat
  deriving DecidableEq, Repr, Inhabited

end StateMachine.Yaml
