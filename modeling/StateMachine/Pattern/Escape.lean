import StateMachine.Decimal.Reading
import StateMachine.Pattern.Reader
import StateMachine.Text.Name

/-!
# Escapes in patterns

A backslash and what follows it: characters by number or name, classes of characters, places, and references to groups.
-/

namespace StateMachine.Pattern

open Reading

/-! ## Groups -/

/-- Whether a group was opened and closed before. -/
def Reader.isClosed (r : Reader) (index : Nat) : Bool := r.closed.any (·.1 == index)

/-- Inside of an assertion that looks back, only groups closed before it may be referred to. -/
def checkReference (index : Nat) : Reading Unit := do
  let r ← get
  match r.innerGroups with
  | none => return ()
  | some first =>
    if !r.isClosed index then fail "cannot refer to an open group"
    else if first ≤ index then
      fail "cannot refer to group defined in the same lookbehind subpattern"
    else return ()

/-- Opens a group. A name may be given once. -/
def openGroup (name : Option (List Char)) : Reading Nat := do
  let r ← get
  let index := r.groups + 1
  match name with
  | none =>
    set { r with groups := index }
    return index
  | some cs =>
    let text := String.ofList cs
    match r.names.lookup text with
    | some other =>
      fail s!"redefinition of group name {Text.quoted text} as group {index}; was group {other}"
        (cs.length + 1)
    | none =>
      set { r with groups := index, names := r.names ++ [(text, index)] }
      return index

/-- Closes a group. -/
def closeGroup (index : Nat) (body : List Node) : Reading Unit :=
  modify fun r => { r with closed := r.closed ++ [(index, widthOf r.closed body)] }

/-! ## Escapes -/

def isOctalDigit (c : Char) : Bool := '0' ≤ c && c ≤ '7'

def isHexDigit (c : Char) : Bool :=
  c.isDigit || ('a' ≤ c && c ≤ 'f') || ('A' ≤ c && c ≤ 'F')

def isAsciiLetter (c : Char) : Bool := c.isAlpha

/-- The escapes of control characters and of the backslash. -/
def controlEscape? : Char → Option Nat
  | 'a' => some 7
  | 'b' => some 8
  | 'f' => some 12
  | 'n' => some 10
  | 'r' => some 13
  | 't' => some 9
  | 'v' => some 11
  | '\\' => some 92
  | _ => none

/-- The escapes of classes of characters. -/
def classEscape? : Char → Option SetItem
  | 'd' => some (.inClass .digit)
  | 'D' => some (.notInClass .digit)
  | 's' => some (.inClass .space)
  | 'S' => some (.notInClass .space)
  | 'w' => some (.inClass .word)
  | 'W' => some (.notInClass .word)
  | _ => none

/-- The escapes of places. -/
def anchorEscape? : Char → Option Anchor
  | 'A' => some .textStart
  | 'b' => some .wordBoundary
  | 'B' => some .notWordBoundary
  | 'Z' => some .textEnd
  | _ => none

/-- Stops with an error about an escape that was just taken. -/
def failEscape {α : Type} (what : String) (escape : List Char) (suffix : String := "") :
    Reading α :=
  fail s!"{what} {String.ofList escape}{suffix}" escape.length

/-- Takes the hexadecimal digits of an escape; there must be exactly `width` of them. -/
def hexCode (c : Char) (width : Nat) : Reading Nat := do
  let digits ← takeWhile isHexDigit width
  if digits.length ≠ width then failEscape "incomplete escape" ('\\' :: c :: digits)
  else
    let n := Decimal.digitsValue 16 digits
    if n ≤ 0x10ffff then return n else failEscape "bad escape" ('\\' :: c :: digits)

/-- Takes the name of a character in braces. A name cannot hold surrogates. -/
def namedCode : Reading Nat := do
  if ← accept '\x7b' then
    let name ← takeName '\x7d' "character name"
    if name.any fun c => Text.isSurrogate (Text.codeOf c) then failEscape "bad escape" ['\\', 'N']
    else
      match Text.named? name with
      | some n => return n
      | none => fail s!"undefined character name {Text.quoted (String.ofList name)}" (name.length + 4)
  else fail "missing \x7b"

/-- The value of an octal escape, which must fit into a byte. -/
def octalCode (digits : List Char) : Reading Nat := do
  let n := Decimal.digitsValue 8 digits
  if n > 0o377 then
    failEscape "octal escape value" ('\\' :: digits) " outside of range 0-0o377"
  else return n

/-- An escape of one character, which may not be a letter or digit. -/
def literalEscape (c : Char) : Reading Nat :=
  if isAsciiLetter c || c.isDigit then failEscape "bad escape" ['\\', c] else return Text.codeOf c

/-- The escapes that stand for a character by its number or name. -/
def numericEscape? (c : Char) : Option (Reading Nat) :=
  match c with
  | 'x' => some (hexCode c 2)
  | 'u' => some (hexCode c 4)
  | 'U' => some (hexCode c 8)
  | 'N' => some namedCode
  | _ => none

/-- An escape inside of a set. -/
def setEscape (c : Char) : Reading SetItem := do
  match controlEscape? c, classEscape? c, numericEscape? c with
  | some n, _, _ => return .code n
  | none, some item, _ => return item
  | none, none, some read => return .code (← read)
  | none, none, none =>
    if isOctalDigit c then
      let more ← takeWhile isOctalDigit 2
      return .code (← octalCode (c :: more))
    else return .code (← literalEscape c)

/-- A reference to a group by number. -/
def numericReference (digits : List Char) : Reading Node := do
  let index := Decimal.digitsValue 10 digits
  let r ← get
  if index ≤ r.groups then
    if !r.isClosed index then fail "cannot refer to an open group" (digits.length + 1)
    else
      checkReference index
      return .backref index
  else fail s!"invalid group reference {index}" digits.length

/-- An escape of digits: an octal number of three digits or a reference to a group. -/
def digitEscape (c : Char) : Reading Node := do
  if ← peekIs Char.isDigit then
    let second := ((← next).bind Token.char?).getD '0'
    if isOctalDigit c && isOctalDigit second && (← peekIs isOctalDigit) then
      let third := ((← next).bind Token.char?).getD '0'
      return .code false (← octalCode [c, second, third])
    else numericReference [c, second]
  else numericReference [c]

/-- An escape outside of sets. -/
def escape (c : Char) : Reading Node := do
  match anchorEscape? c, classEscape? c with
  | some a, _ => return .anchor a
  | none, some item => return .set false [item]
  | none, none =>
    match controlEscape? c, numericEscape? c with
    | some n, _ => return .code false n
    | none, some read => return .code false (← read)
    | none, none =>
      if c == '0' then
        let more ← takeWhile isOctalDigit 2
        return .code false (Decimal.digitsValue 8 more)
      else if c.isDigit then digitEscape c
      else return .code false (← literalEscape c)

end StateMachine.Pattern
