import StateMachine.Yaml.Grammar
import StateMachine.Yaml.Lexer
import StateMachine.Yaml.Meaning

/-!
# YAML documents

The value of the only document in a text, as YAML 1.1 defines it.
-/

namespace StateMachine.Yaml

/-- The document in a text. There may be none. -/
def Document.ofText? (text : String) : Option (Option Document) :=
  let cs := normalizeBreaks text.toList
  if cs.all isAllowed then (tokens? (locate cs)).bind Document.ofTokens? else none

/-- The value of the document in a text, with lines or without. It is null if there is no document. -/
def read? (lined : Bool) (text : String) : Option Value :=
  (Document.ofText? text).bind fun document =>
    match document with
    | none => some .null
    | some document => document.value? lined

end StateMachine.Yaml
