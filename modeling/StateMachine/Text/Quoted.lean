import StateMachine.Text.Printable
import StateMachine.Text.CodePoint

/-!
# Quoted text

Diagnostics show a text between quote marks, on one line and without invisible characters: line breaks, tabs,
backslashes and the mark itself are escaped by a backslash, and what cannot be printed is written in hexadecimal.
-/

namespace StateMachine.Text

/-- The mark around a text: the apostrophe, or the double quote where only the apostrophe occurs inside. -/
def quoteMark (cs : List Char) : Char :=
  if cs.contains '\x27' && !cs.contains '\x22' then '\x22' else '\x27'

/-- The last `width` hexadecimal digits of a number. -/
def hexDigits : Nat → Nat → List Char
  | 0, _ => []
  | width + 1, n => hexDigits width (n / 16) ++ [Nat.digitChar (n % 16)]

/-- A code point in the shortest of the forms `\x41`, `\u0041` and `\U00000041`. -/
def hexEscape (n : Nat) : List Char :=
  if n < 0x100 then '\\' :: 'x' :: hexDigits 2 n
  else if n < 0x10000 then '\\' :: 'u' :: hexDigits 4 n
  else '\\' :: 'U' :: hexDigits 8 n

/-- One character inside the quote marks. -/
def escapeChar (mark c : Char) : List Char :=
  if c == mark || c == '\\' then ['\\', c]
  else if c == '\n' then ['\\', 'n']
  else if c == '\r' then ['\\', 'r']
  else if c == '\t' then ['\\', 't']
  else if isPrintable c then [c]
  else hexEscape (codeOf c)

/-- The characters of a quoted text, marks included. -/
def quotedChars (cs : List Char) : List Char :=
  let mark := quoteMark cs
  mark :: cs.flatMap (escapeChar mark) ++ [mark]

/-- A text between quote marks. -/
def quoted (s : String) : String := String.ofList (quotedChars s.toList)

/-- One byte inside the quote marks: only ASCII is shown as it is. -/
def escapeByte (mark : Char) (b : UInt8) : List Char :=
  let c := Char.ofNat b.toNat
  if b.toNat < 0x80 then escapeChar mark c else hexEscape b.toNat

/-- Bytes between quote marks, after a `b`. -/
def quotedBytes (bs : List UInt8) : String :=
  let mark := quoteMark (bs.map fun b => Char.ofNat b.toNat)
  String.ofList ('b' :: mark :: bs.flatMap (escapeByte mark) ++ [mark])

end StateMachine.Text
