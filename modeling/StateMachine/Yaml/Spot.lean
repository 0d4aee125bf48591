/-!
# Places in a document

A YAML document is read as a list of its characters with their places. Line breaks of all kinds count as lines, and a
byte order mark takes no column.
-/

namespace StateMachine.Yaml

/-- A character and its place, all counted from 0. -/
structure Spot where
  char : Char
  index : Nat
  line : Nat
  column : Nat
  deriving DecidableEq, Repr, Inhabited

/-- What is left of a document. It ends in a spot whose character is NUL, which no document may hold. -/
abbrev Spots := List Spot

/-- The end of a document. -/
def endChar : Char := '\x00'

/-- The characters that break lines. Carriage returns are gone when a document is read. -/
def isBreak (c : Char) : Bool :=
  c == '\n' || c == '\u0085' || c == '\u2028' || c == '\u2029'

/-- A line break or the end. -/
def isBreakOrEnd (c : Char) : Bool := isBreak c || c == endChar

/-- A space, a line break or the end. -/
def isSpaceOrEnd (c : Char) : Bool := c == ' ' || isBreakOrEnd c

/-- A space, a tab, a line break or the end. -/
def isBlankOrEnd (c : Char) : Bool := c == '\t' || isSpaceOrEnd c

/-- Whether a document may hold a character. -/
def isAllowed (c : Char) : Bool :=
  let n := c.toNat
  n == 9 || n == 10 || (0x20 ≤ n && n ≤ 0x7e) || n == 0x85
    || (0xa0 ≤ n && n ≤ 0xfffd) || 0x10000 ≤ n

/-- Makes every line break of a file a line feed: a carriage return, alone or before a line feed. -/
def normalizeBreaks : List Char → List Char
  | [] => []
  | '\r' :: '\n' :: rest => '\n' :: normalizeBreaks rest
  | '\r' :: rest => '\n' :: normalizeBreaks rest
  | c :: rest => c :: normalizeBreaks rest

/-- Characters with their places, from a given place on. -/
def locateFrom (index line column : Nat) : List Char → Spots
  | [] => [⟨endChar, index, line, column⟩]
  | c :: rest =>
    ⟨c, index, line, column⟩ ::
      (if isBreak c then locateFrom (index + 1) (line + 1) 0 rest
       else locateFrom (index + 1) line (if c == '\ufeff' then column else column + 1) rest)

/-- The spots of a document. A byte order mark at its beginning is skipped. -/
def locate (cs : List Char) : Spots :=
  match locateFrom 0 0 0 cs with
  | s :: rest => if s.char == '\ufeff' then rest else s :: rest
  | [] => []

namespace Spots

/-- The next spot. -/
def here (s : Spots) : Spot := s.headD ⟨endChar, 0, 0, 0⟩

/-- The character `n` places on. -/
def peek (s : Spots) (n : Nat) : Char := (s[n]?.map (·.char)).getD endChar

/-- The next character. -/
def char (s : Spots) : Char := s.peek 0

def column (s : Spots) : Nat := s.here.column

/-- The characters up to the first that fails a test, and the rest. -/
def span (test : Char → Bool) : Spots → List Char × Spots
  | [] => ([], [])
  | spot :: rest =>
    if test spot.char then
      let (cs, tail) := span test rest
      (spot.char :: cs, tail)
    else ([], spot :: rest)

/-- The rest from the first character on that fails a test. -/
def skip (test : Char → Bool) (s : Spots) : Spots := s.dropWhile fun spot => test spot.char

/-- The rest after all spaces that come next. -/
def skipSpaces (s : Spots) : Spots := s.skip (· == ' ')

/-- A line break, if one comes next. Only the two separators of Unicode keep their character. -/
def takeBreak (s : Spots) : List Char × Spots :=
  match s with
  | spot :: rest =>
    if spot.char == '\n' || spot.char == '\u0085' then (['\n'], rest)
    else if isBreak spot.char then ([spot.char], rest)
    else ([], s)
  | [] => ([], [])

/-- Whether the mark that separates documents comes next: three times a character, and a blank. -/
def isMark (s : Spots) (c : Char) : Bool :=
  s.peek 0 == c && s.peek 1 == c && s.peek 2 == c && isBlankOrEnd (s.peek 3)

/-- Whether a mark for the start or end of a document comes next. -/
def isDocumentMark (s : Spots) : Bool := s.isMark '-' || s.isMark '.'

/-- Skips spaces and a comment, up to the end of the line, which must come next. -/
def restOfLine? (s : Spots) : Option Spots :=
  let s := s.skipSpaces
  let s := if s.char == '#' then s.skip fun c => !isBreakOrEnd c else s
  if isBreakOrEnd s.char then some s.takeBreak.2 else none

end Spots

end StateMachine.Yaml
