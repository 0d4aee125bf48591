import StateMachine.Yaml.ScalarText
import StateMachine.Yaml.Token

/-!
# From characters to tokens

The structure of a document lies in its marks and its indentation. A key of a mapping is only known as one when the
colon after it is met, so each place where a key may begin is remembered, one for each level of nesting in brackets;
the token for the key is put in there later. A step reads one token.
-/

namespace StateMachine.Yaml

/-- A place where a key may have begun. -/
structure PendingKey where
  /-- The number of tokens before it. -/
  token : Nat
  /-- Nothing but a key can stand there. -/
  required : Bool
  spot : Spot

/-- What is left of a document, and what was read of it. -/
structure Lexer where
  rest : Spots
  tokens : Array Token := #[]
  /-- How many brackets are open. -/
  flow : Nat := 0
  /-- The column of the innermost block collection, and of those around it. -/
  indent : Int := -1
  indents : List Int := []
  /-- Whether a key may begin here. -/
  allowKey : Bool := true
  /-- The pending keys by the number of brackets around them. -/
  pending : List (Nat × PendingKey) := []

namespace Lexer

/-! ## Indentation and keys -/

def inFlow (x : Lexer) : Bool := x.flow != 0

/-- Adds a token that begins at the next spot. -/
def push (x : Lexer) (kind : TokenKind) : Lexer :=
  { x with tokens := x.tokens.push ⟨kind, x.rest.here.line⟩ }

/-- Closes the block collections that are indented by more than a column. -/
def unwindFrom (column : Int) (x : Lexer) : List Int → Lexer
  | [] => { x with indents := [] }
  | outer :: more =>
    if column < x.indent then
      unwindFrom column { x.push .blockEnd with indent := outer, indents := more } more
    else x

/-- Closes the block collections that are indented by more than a column. Brackets ignore indentation. -/
def unwind (x : Lexer) (column : Int) : Lexer :=
  if x.inFlow then x else unwindFrom column x x.indents

/-- Opens a block collection at a column, unless one is open there. -/
def indentTo (x : Lexer) (column : Nat) : Option Lexer :=
  if x.indent < column then
    some { x with indent := column, indents := x.indent :: x.indents }
  else none

/-- Forgets the pending key of the innermost bracket. A required key must not be forgotten. -/
def dropKey? (x : Lexer) : Option Lexer :=
  match x.pending.lookup x.flow with
  | some key =>
    if key.required then none
    else some { x with pending := x.pending.filter (·.1 != x.flow) }
  | none => some x

/-- Forgets the pending keys that no colon can follow any more: those of earlier lines, and those more than 1024
characters back. -/
def dropStaleKeys? (x : Lexer) : Option Lexer :=
  let here := x.rest.here
  let stale (key : PendingKey) : Bool :=
    key.spot.line != here.line || 1024 < here.index - key.spot.index
  if x.pending.any fun (_, key) => stale key && key.required then none
  else some { x with pending := x.pending.filter fun (_, key) => !stale key }

/-- Remembers that a key may begin here. -/
def saveKey? (x : Lexer) : Option Lexer :=
  let required := !x.inFlow && x.indent == (x.rest.column : Int)
  if x.allowKey then
    x.dropKey?.map fun x =>
      { x with pending := (x.flow, ⟨x.tokens.size, required, x.rest.here⟩) :: x.pending }
  else some x

/-! ## Properties and directives -/

/-- The characters of names: of anchors, directives and handles. -/
def isNameChar (c : Char) : Bool := c.isAlphanum || c == '-' || c == '_'

/-- The characters of tags. -/
def isTagChar (c : Char) : Bool :=
  isNameChar c || [';', '/', '?', ':', '@', '&', '=', '+', '$', ',', '.', '!', '~', '*', '\x27',
    '(', ')', '[', ']', '%'].contains c

/-- The bytes of escapes such as `%41`. -/
def escapedBytes? : Nat → Spots → Option (List UInt8 × Spots)
  | 0, s => some ([], s)
  | fuel + 1, s =>
    if s.char == '%' then do
      let n ← hexNumber? 2 (s.drop 1)
      let (more, s) ← escapedBytes? fuel (s.drop 3)
      return (n.toUInt8 :: more, s)
    else some ([], s)

/-- The text of a tag, escapes resolved. -/
def tagText? : Nat → Spots → Option (List Char × Spots)
  | 0, s => some ([], s)
  | fuel + 1, s =>
    if s.char == '%' then do
      let (bytes, s) ← escapedBytes? (s.length + 1) s
      let text ← String.fromUTF8? ⟨bytes.toArray⟩
      let (more, s) ← tagText? fuel s
      return (text.toList ++ more, s)
    else if isTagChar s.char then do
      let (more, s') ← tagText? fuel (s.drop 1)
      return (s.char :: more, s')
    else some ([], s)

/-- The text of a tag, which may not be empty. -/
def tagUri? (s : Spots) : Option (String × Spots) := do
  let (cs, s) ← tagText? (s.length + 1) s
  if cs.isEmpty then none else return (String.ofList cs, s)

/-- The handle of a tag: a mark alone, or a name between two marks. -/
def handle? (s : Spots) : Option (String × Spots) :=
  if s.char != '!' then none
  else
    let (name, tail) := Spots.span isNameChar (s.drop 1)
    if tail.char == '!' then some (String.ofList ('!' :: name ++ ['!']), tail.drop 1)
    else if name.isEmpty && tail.char == ' ' then some ("!", tail)
    else none

/-- A tag property. -/
def tagProperty? (s : Spots) : Option (TokenKind × Spots) := do
  let (kind, rest) : TokenKind × Spots ←
    if s.peek 1 == '<' then do
      let (suffix, tail) ← tagUri? (s.drop 2)
      if Spots.char tail == '>' then some (TokenKind.tag none suffix, tail.drop 1) else none
    else if isBlankOrEnd (s.peek 1) then some (TokenKind.tag none "!", s.drop 1)
    else do
      let word := (Spots.span (fun c => !isSpaceOrEnd c) (s.drop 1)).1
      if word.contains '!' then do
        let (handle, s) ← handle? s
        let (suffix, s) ← tagUri? s
        return (TokenKind.tag (some handle) suffix, s)
      else do
        let (suffix, s) ← tagUri? (s.drop 1)
        return (TokenKind.tag (some "!") suffix, s)
  if isSpaceOrEnd rest.char then return (kind, rest) else none

/-- The name of an anchor or alias. -/
def anchorName? (s : Spots) : Option (String × Spots) :=
  let (name, tail) := Spots.span isNameChar (s.drop 1)
  let ends := isBlankOrEnd tail.char
    || ['?', ':', ',', ']', '\x7d', '%', '@', '\x60'].contains tail.char
  if name.isEmpty || !ends then none else some (String.ofList name, tail)

/-- A number of a version. -/
def versionNumber? (s : Spots) : Option (Nat × Spots) :=
  let (digits, tail) := s.span Char.isDigit
  if digits.isEmpty then none else some (Decimal.digitsValue 10 digits, tail)

/-- What follows the name of a directive. -/
def directiveBody? (name : String) (s : Spots) : Option (TokenKind × Spots) :=
  if name = "YAML" then do
    let (major, s) ← versionNumber? s.skipSpaces
    if s.char != '.' then none
    else
      let (minor, s) ← versionNumber? (s.drop 1)
      if isSpaceOrEnd s.char then return (.version major minor, s) else none
  else if name = "TAG" then do
    let (handle, s) ← handle? s.skipSpaces
    if s.char != ' ' then none
    else
      let (uri, s) ← tagUri? s.skipSpaces
      if isSpaceOrEnd s.char then return (.tagHandle handle uri, s) else none
  else some (.unknownDirective, s.skip fun c => !isBreakOrEnd c)

/-- A directive from its percent sign on. -/
def directive? (s : Spots) : Option (TokenKind × Spots) := do
  let (name, s) := Spots.span isNameChar (s.drop 1)
  if name.isEmpty || !isSpaceOrEnd s.char then none
  else
    let (kind, s) ← directiveBody? (String.ofList name) s
    return (kind, ← s.restOfLine?)

/-! ## Steps -/

/-- Skips spaces, comments and line breaks. Outside of brackets a new line allows a key. -/
def toNextToken (inFlow : Bool) : Bool → Bool → Spots → Bool × Spots
  | _, allow, [] => (allow, [])
  | inComment, allow, spot :: rest =>
    if isBreak spot.char then toNextToken inFlow false (allow || !inFlow) rest
    else if inComment && spot.char != endChar then toNextToken inFlow true allow rest
    else if !inComment && spot.char == ' ' then toNextToken inFlow false allow rest
    else if !inComment && spot.char == '#' then toNextToken inFlow true allow rest
    else (allow, spot :: rest)

/-- Adds a token of some characters. -/
def take (x : Lexer) (kind : TokenKind) (count : Nat) : Lexer :=
  let x := x.push kind
  { x with rest := x.rest.drop count }

/-- Adds a token that was read separately. -/
def takeTo (x : Lexer) (kind : TokenKind) (rest : Spots) : Lexer := { x.push kind with rest := rest }

/-- A token that belongs to the document as a whole: it ends all blocks. -/
def documentToken? (x : Lexer) (kind : TokenKind) (rest : Spots) : Option Lexer :=
  (x.unwind (-1)).dropKey?.map fun x => { x.takeTo kind rest with allowKey := false }

/-- The end of the document. -/
def finish? (x : Lexer) : Option Lexer :=
  (x.documentToken? .streamEnd []).map fun x => { x with pending := [] }

/-- A bracket that opens a collection. -/
def openFlow? (x : Lexer) (kind : TokenKind) : Option Lexer :=
  x.saveKey?.map fun x => { x.take kind 1 with flow := x.flow + 1, allowKey := true }

/-- A bracket that closes a collection. -/
def closeFlow? (x : Lexer) (kind : TokenKind) : Option Lexer :=
  x.dropKey?.map fun x => { x.take kind 1 with flow := x.flow - 1, allowKey := false }

/-- Opens a block collection at the next column, if one begins there. Only where a key may begin. -/
def openBlock? (x : Lexer) (kind : TokenKind) : Option Lexer :=
  if x.inFlow then some x
  else if !x.allowKey then none
  else some (((x.indentTo x.rest.column).map fun x => x.push kind).getD x)

/-- An entry of a block sequence. -/
def blockEntry? (x : Lexer) : Option Lexer := do
  let x ← x.openBlock? .blockSequenceStart
  let x ← x.dropKey?
  return { x.take .blockEntry 1 with allowKey := true }

/-- A key marked as one. -/
def explicitKey? (x : Lexer) : Option Lexer := do
  let x ← x.openBlock? .blockMappingStart
  let x ← x.dropKey?
  return { x.take .key 1 with allowKey := !x.inFlow }

/-- A colon. If a key is pending it was one, and the mapping begins with it if none is open there. -/
def value? (x : Lexer) : Option Lexer :=
  match x.pending.lookup x.flow with
  | some key =>
    let x := { x with pending := x.pending.filter (·.1 != x.flow) }
    let insert (x : Lexer) (kind : TokenKind) : Lexer :=
      { x with tokens := x.tokens.insertIdxIfInBounds key.token ⟨kind, key.spot.line⟩ }
    let x := insert x .key
    let x := if x.inFlow then x
      else ((x.indentTo key.spot.column).map fun x => insert x .blockMappingStart).getD x
    some { x.take .value 1 with allowKey := false }
  | none => do
    let x ← x.openBlock? .blockMappingStart
    let x ← x.dropKey?
    return { x.take .value 1 with allowKey := !x.inFlow }

/-- A token with which a key may begin. -/
def nodeToken? (x : Lexer) (read : Spots → Option (TokenKind × Spots)) : Option Lexer := do
  let x ← x.saveKey?
  let (kind, rest) ← read x.rest
  return { x.takeTo kind rest with allowKey := false }

/-- A block scalar. -/
def block? (x : Lexer) (folded : Bool) : Option Lexer := do
  let x ← x.dropKey?
  let (text, rest) ← blockScalar? folded x.indent x.rest
  return { x.takeTo (.scalar text false) rest with allowKey := true }

/-- A plain scalar. -/
def plain? (x : Lexer) : Option Lexer := do
  let x ← x.saveKey?
  let (text, rest, ended) := plainScalar x.inFlow (x.indent + 1) x.rest
  return { x.takeTo (.scalar text true) rest with allowKey := ended }

/-- Whether a plain scalar begins here. -/
def startsPlain (x : Lexer) : Bool :=
  let c := x.rest.char
  let next := x.rest.peek 1
  let isIndicator := ['-', '?', ':', ',', '[', ']', '\x7b', '\x7d', '#', '&', '*', '!', '|', '>',
    '\x27', '\x22', '%', '@', '\x60'].contains c
  (!isBlankOrEnd c && !isIndicator)
    || (!isBlankOrEnd next && (c == '-' || (!x.inFlow && (c == '?' || c == ':'))))

/-- Reads one token. -/
def step? (x : Lexer) : Option Lexer := do
  let (allow, rest) := toNextToken x.inFlow false x.allowKey x.rest
  let x := { x with allowKey := allow, rest := rest }
  let x ← x.dropStaleKeys?
  let x := x.unwind x.rest.column
  let c := x.rest.char
  let s := x.rest
  let blankNext := isBlankOrEnd (s.peek 1)
  if c == endChar then x.finish?
  else if c == '%' && s.column == 0 then do
    let (kind, rest) ← directive? s
    x.documentToken? kind rest
  else if s.column == 0 && s.isMark '-' then x.documentToken? .documentStart (s.drop 3)
  else if s.column == 0 && s.isMark '.' then x.documentToken? .documentEnd (s.drop 3)
  else if c == '[' then x.openFlow? .flowSequenceStart
  else if c == '\x7b' then x.openFlow? .flowMappingStart
  else if c == ']' then x.closeFlow? .flowSequenceEnd
  else if c == '\x7d' then x.closeFlow? .flowMappingEnd
  else if c == ',' then
    x.dropKey?.map fun x => { x.take .flowEntry 1 with allowKey := true }
  else if c == '-' && blankNext then x.blockEntry?
  else if c == '?' && (x.inFlow || blankNext) then x.explicitKey?
  else if c == ':' && (x.inFlow || blankNext) then x.value?
  else if c == '*' then
    x.nodeToken? fun s => (anchorName? s).map fun (name, s) => (.alias name, s)
  else if c == '&' then
    x.nodeToken? fun s => (anchorName? s).map fun (name, s) => (.anchor name, s)
  else if c == '!' then x.nodeToken? tagProperty?
  else if c == '|' && !x.inFlow then x.block? false
  else if c == '>' && !x.inFlow then x.block? true
  else if c == '\x27' || c == '\x22' then
    x.nodeToken? fun s => (quotedScalar? (c == '\x22') s).map fun (t, s) => (.scalar t false, s)
  else if x.startsPlain then x.plain?
  else none

/-- Reads tokens up to the end. -/
def run? : Nat → Lexer → Option Lexer
  | 0, _ => none
  | fuel + 1, x =>
    if x.rest.isEmpty then some x
    else x.step?.bind (run? fuel)

end Lexer

/-- The tokens of a document. Each step but the last takes at least one character. -/
def tokens? (s : Spots) : Option (List Token) :=
  (Lexer.run? (s.length + 2) { rest := s }).map fun x => x.tokens.toList

end StateMachine.Yaml
