import StateMachine.Pattern.Error

/-!
# Tokens of patterns

A pattern is read one character at a time, a backslash together with the character after it.
-/

namespace StateMachine.Pattern

/-- One or two characters of a pattern and where they begin. -/
structure Token where
  chars : List Char
  position : Nat
  deriving DecidableEq, Repr

/-- The tokens of a pattern whose first character has the given position. -/
def tokensFrom : Nat → List Char → List Token
  | _, [] => []
  | n, [c] => [⟨[c], n⟩]
  | n, c :: d :: rest =>
    if c == '\\' then ⟨[c, d], n⟩ :: tokensFrom (n + 2) rest
    else ⟨[c], n⟩ :: tokensFrom (n + 1) (d :: rest)

namespace Token

/-- Whether a token is this one character. -/
def isChar (t : Token) (c : Char) : Bool := t.chars == [c]

/-- The character of a token that is no escape. -/
def char? (t : Token) : Option Char :=
  match t.chars with
  | [c] => some c
  | _ => none

/-- Whether a token is one character that a test accepts. -/
def isOneOf (t : Token) (test : Char → Bool) : Bool := t.char?.any test

/-- The characters of a token as a text. -/
def text (t : Token) : String := String.ofList t.chars

/-- Whether a token is a backslash with nothing after it, which can only be the last one. -/
def isDangling (t : Token) : Bool := t.chars == ['\\']

end Token

end StateMachine.Pattern
