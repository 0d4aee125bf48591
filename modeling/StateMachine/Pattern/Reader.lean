import StateMachine.Pattern.Syntax
import StateMachine.Pattern.Token
import StateMachine.Text.Identifier
import StateMachine.Text.Quoted

/-!
# The reader of patterns

What is left of a pattern and what is known of its groups, and the steps that take one token after the other. An error
names what is wrong and the character where it was noticed.
-/

namespace StateMachine.Pattern

/-! ## The state of a reader -/

/-- What is left to read, and what is known about groups so far. -/
structure Reader where
  tokens : List Token
  /-- The length of the pattern. -/
  size : Nat
  /-- How many groups were opened. -/
  groups : Nat := 0
  /-- The lengths of the groups that were closed. -/
  closed : List (Nat × Width) := []
  names : List (String × Nat) := []
  /-- Inside of an assertion that looks back: the first group that was opened there. -/
  innerGroups : Option Nat := none
  /-- The groups that conditions refer to, with the place of the first such reference. -/
  conditions : List (Nat × Nat) := []
  /-- The flags set for the whole pattern. -/
  flags : List Flag := []

/-- A step of reading. -/
abbrev Reading := StateT Reader (Except Failure)

namespace Reading

/-- The position of the next token. -/
def tell : Reading Nat := do
  let r ← get
  return (r.tokens.head?.map (·.position)).getD r.size

/-- Stops with an error some characters before the next token. -/
def fail {α : Type} (message : String) (offset : Nat := 0) : Reading α := do
  let here ← tell
  throw (.wrong ⟨message, some (here - offset)⟩)

/-- The next token. -/
def peek : Reading (Option Token) := return (← get).tokens.head?

/-- A backslash at the end of a pattern is an error as soon as it is the next token. -/
def checkDangling : Reading Unit := do
  match (← get).tokens with
  | t :: _ =>
    if t.isDangling then throw (.wrong ⟨"bad escape (end of pattern)", some t.position⟩) else pure ()
  | [] => pure ()

/-- Takes the next token. -/
def next : Reading (Option Token) := do
  let r ← get
  match r.tokens with
  | [] => return none
  | t :: rest =>
    set { r with tokens := rest }
    checkDangling
    return some t

/-- Takes the next token if it is the given character. -/
def accept (c : Char) : Reading Bool := do
  match ← peek with
  | some t => if t.isChar c then let _ ← next; return true else return false
  | none => return false

/-- Whether the next token is a character that a test accepts. -/
def peekIs (test : Char → Bool) : Reading Bool :=
  return (← peek).any (·.isOneOf test)

/-- Takes at most `n` characters that a test accepts. -/
def takeWhile (test : Char → Bool) : Nat → Reading (List Char)
  | 0 => return []
  | n + 1 => do
    if ← peekIs test then
      let t ← next
      let rest ← takeWhile test n
      return (t.map (·.chars)).getD [] ++ rest
    else return []

/-- Takes a name up to a terminator, which is taken too. -/
def takeUntil (terminator : Char) (what : String) : Nat → List Char → Reading (List Char)
  | 0, taken => return taken
  | fuel + 1, taken => do
    match ← next with
    | none =>
      if taken.isEmpty then fail s!"missing {what}"
      else fail s!"missing {terminator}, unterminated name" taken.length
    | some t =>
      if t.isChar terminator then
        if taken.isEmpty then fail s!"missing {what}" 1 else return taken
      else takeUntil terminator what fuel (taken ++ t.chars)

/-- Takes a name up to a terminator, however long. -/
def takeName (terminator : Char) (what : String) : Reading (List Char) := do
  takeUntil terminator what ((← get).tokens.length + 1) []

/-- A group name must be an identifier. -/
def checkName (name : List Char) : Reading Unit := do
  if Text.isIdentifier name then return ()
  else fail s!"bad character in group name {Text.quoted (String.ofList name)}" (name.length + 1)

end Reading

end StateMachine.Pattern
