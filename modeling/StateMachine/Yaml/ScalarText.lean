import StateMachine.Yaml.Spot
import StateMachine.Decimal.Reading
import StateMachine.Text.CodePoint

/-!
# The text of scalars

Scalars are written plainly, between single or double quotes, or as blocks of lines. In all but literal blocks a
single line break means a space, and further ones stand for themselves. Recursion that goes forward in a document is
bounded by the number of characters left.
-/

namespace StateMachine.Yaml

/-! ## Plain scalars -/

/-- Whether a plain scalar ends before a character that is followed by another one. -/
def endsPlain (inFlow : Bool) (c next : Char) : Bool :=
  isBlankOrEnd c
    || (c == ':' && (isBlankOrEnd next || (inFlow && [',', '[', ']', '\x7b', '\x7d'].contains next)))
    || (inFlow && [',', '?', '[', ']', '\x7b', '\x7d'].contains c)

/-- The characters of a plain scalar up to its next blank or its end. -/
def plainRun (inFlow : Bool) : Spots → List Char × Spots
  | [] => ([], [])
  | spot :: rest =>
    if endsPlain inFlow spot.char (Spots.peek rest 0) then ([], spot :: rest)
    else
      let (cs, tail) := plainRun inFlow rest
      (spot.char :: cs, tail)

/-- Spaces and breaks before the next line of a plain scalar, up to a mark between documents: the breaks taken,
what follows, and whether a mark was met. -/
def plainBreaks : Nat → Spots → List Char × Spots × Bool
  | 0, s => ([], s, false)
  | fuel + 1, s =>
    if s.char == ' ' then plainBreaks fuel (s.drop 1)
    else if isBreak s.char then
      let (b, s) := s.takeBreak
      if s.isDocumentMark then ([], s, true)
      else
        let (breaks, s, mark) := plainBreaks fuel s
        (b ++ breaks, s, mark)
    else ([], s, false)

/-- A single line break means a space; further ones stand for themselves. -/
def foldBreaks (first more : List Char) : List Char :=
  if first != ['\n'] then first ++ more else if more.isEmpty then [' '] else more

/-- The blanks after a part of a plain scalar, what follows, and whether a line ended. No blanks end the scalar. -/
def plainSpaces (s : Spots) : List Char × Spots × Bool :=
  let (spaces, s) := s.span (· == ' ')
  if isBreak s.char then
    let (first, s) := s.takeBreak
    if s.isDocumentMark then ([], s, true)
    else
      let (more, s, mark) := plainBreaks (s.length + 1) s
      (if mark then [] else foldBreaks first more, s, true)
  else (spaces, s, false)

/-- A plain scalar from one part on: its text, what follows, and whether it ended with its line. `blanks` come before
the part, `indent` is the column that further lines must reach. -/
def plainParts (inFlow : Bool) (indent : Int) :
    Nat → List Char → Bool → Spots → List Char × Spots × Bool
  | 0, _, ended, s => ([], s, ended)
  | fuel + 1, blanks, ended, s =>
    if s.char == '#' then ([], s, ended)
    else
      let (part, s) := plainRun inFlow s
      if part.isEmpty then ([], s, ended)
      else
        let (next, s, ended) := plainSpaces s
        if next.isEmpty || s.char == '#' || (!inFlow && (s.column : Int) < indent) then
          (blanks ++ part, s, ended)
        else
          let (more, s, ended) := plainParts inFlow indent fuel next ended s
          (blanks ++ part ++ more, s, ended)

/-- A plain scalar: its text, what follows, and whether it ended with its line. -/
def plainScalar (inFlow : Bool) (indent : Int) (s : Spots) : String × Spots × Bool :=
  let (cs, s, ended) := plainParts inFlow indent (s.length + 1) [] false s
  (String.ofList cs, s, ended)

/-! ## Quoted scalars -/

/-- The escapes of one character between double quotes. -/
def simpleEscape? : Char → Option Char
  | '0' => some '\x00'
  | 'a' => some '\x07'
  | 'b' => some '\x08'
  | 't' => some '\t'
  | '\t' => some '\t'
  | 'n' => some '\n'
  | 'v' => some '\x0b'
  | 'f' => some '\x0c'
  | 'r' => some '\r'
  | 'e' => some '\x1b'
  | ' ' => some ' '
  | '\x22' => some '\x22'
  | '\\' => some '\\'
  | '/' => some '/'
  | 'N' => some '\u0085'
  | '_' => some '\u00a0'
  | 'L' => some '\u2028'
  | 'P' => some '\u2029'
  | _ => none

/-- The number of digits of an escape that gives a code point. -/
def escapeWidth? : Char → Option Nat
  | 'x' => some 2
  | 'u' => some 4
  | 'U' => some 8
  | _ => none

/-- A hexadecimal digit. -/
def isHex (c : Char) : Bool := c.isDigit || ('a' ≤ c && c ≤ 'f') || ('A' ≤ c && c ≤ 'F')

/-- The next `width` characters as a hexadecimal number. -/
def hexNumber? (width : Nat) (s : Spots) : Option Nat :=
  let digits := (s.take width).map (·.char)
  if digits.length = width && digits.all isHex then some (Decimal.digitsValue 16 digits) else none

/-- Breaks and blanks at the beginning of lines inside of quotes. A mark between documents must not come there. -/
def quotedBreaks? : Nat → Spots → Option (List Char × Spots)
  | 0, s => some ([], s)
  | fuel + 1, s =>
    if s.isDocumentMark then none
    else
      let s := s.skip fun c => c == ' ' || c == '\t'
      if isBreak s.char then
        let (b, s) := s.takeBreak
        (quotedBreaks? fuel s).map fun (more, s) => (b ++ more, s)
      else some ([], s)

/-- Blanks inside of quotes, which stand for themselves unless a line ends. -/
def quotedSpaces? (s : Spots) : Option (List Char × Spots) :=
  let (blanks, s) := s.span fun c => c == ' ' || c == '\t'
  if s.char == endChar then none
  else if isBreak s.char then
    let (first, s) := s.takeBreak
    (quotedBreaks? (s.length + 1) s).map fun (more, s) => (foldBreaks first more, s)
  else some (blanks, s)

/-- Characters that stand for themselves between quotes of either kind. -/
def isOrdinary (c : Char) : Bool :=
  !(isBlankOrEnd c || c == '\x27' || c == '\x22' || c == '\\')

/-- An escape between double quotes, after its backslash. -/
def doubleEscape? (s : Spots) : Option (List Char × Spots) :=
  match simpleEscape? s.char, escapeWidth? s.char with
  | some c, _ => some ([c], s.drop 1)
  | none, some width => do
    let code ← hexNumber? width (s.drop 1)
    if code ≤ 0x10ffff then some ([Text.ofCode code], s.drop (width + 1)) else none
  | none, none =>
    if isBreak s.char then
      let (_, s) := s.takeBreak
      quotedBreaks? (s.length + 1) s
    else none

/-- A quoted scalar from a place inside on: its text and what follows the closing quote. -/
def quotedParts? (double : Bool) : Nat → Spots → Option (List Char × Spots)
  | 0, _ => none
  | fuel + 1, s =>
    let c := s.char
    let continueWith (taken : List Char × Spots) : Option (List Char × Spots) :=
      (quotedParts? double fuel taken.2).map fun (more, s) => (taken.1 ++ more, s)
    if isOrdinary c then continueWith (s.span isOrdinary)
    else if !double && c == '\x27' && s.peek 1 == '\x27' then continueWith (['\x27'], s.drop 2)
    else if c == (if double then '\x22' else '\x27') then some ([], s.drop 1)
    else if c == '\x27' || c == '\x22' || (!double && c == '\\') then continueWith ([c], s.drop 1)
    else if c == '\\' then do continueWith (← doubleEscape? (s.drop 1))
    else do continueWith (← quotedSpaces? s)

/-- A quoted scalar from its opening quote on. -/
def quotedScalar? (double : Bool) (s : Spots) : Option (String × Spots) :=
  (quotedParts? double (s.length + 1) (s.drop 1)).map fun (cs, s) => (String.ofList cs, s)

/-! ## Blocks -/

/-- What becomes of the line breaks at the end of a block: one stays, none stays, or all stay. -/
inductive Chomping where
  | clip
  | strip
  | keep
  deriving DecidableEq, Repr

/-- The chomping that a sign asks for. -/
def Chomping.ofChar? : Char → Option Chomping
  | '+' => some keep
  | '-' => some strip
  | _ => none

/-- The digit of an explicit indentation, which may not be zero. -/
def indentDigit? (c : Char) : Option Nat :=
  if c.isDigit && c != '0' then some (c.toNat - 48) else none

/-- The signs after the mark of a block: chomping and indentation, in any order. -/
def blockHeader? (s : Spots) : Option (Chomping × Option Nat × Spots) :=
  let first := s.char
  let second := s.peek 1
  let (chomping, increment, s) : Chomping × Option Char × Spots :=
    match Chomping.ofChar? first with
    | some c => if second.isDigit then (c, some second, s.drop 2) else (c, none, s.drop 1)
    | none =>
      if first.isDigit then
        match Chomping.ofChar? second with
        | some c => (c, some first, s.drop 2)
        | none => (.clip, some first, s.drop 1)
      else (.clip, none, s)
  if isSpaceOrEnd s.char then
    match increment with
    | none => some (chomping, none, s)
    | some c => (indentDigit? c).map fun n => (chomping, some n, s)
  else none

/-- Breaks and spaces before the first line of a block: the breaks, the greatest column reached, and what follows. -/
def leadingBreaks : Nat → Nat → Spots → List Char × Nat × Spots
  | 0, widest, s => ([], widest, s)
  | fuel + 1, widest, s =>
    if isBreak s.char then
      let (b, s) := s.takeBreak
      let (more, widest, s) := leadingBreaks fuel widest s
      (b ++ more, widest, s)
    else if s.char == ' ' then
      let s : Spots := s.drop 1
      leadingBreaks fuel (max widest s.column) s
    else ([], widest, s)

/-- Skips spaces up to a column. -/
def skipIndent (indent : Nat) : Spots → Spots
  | [] => []
  | spot :: rest =>
    if spot.column < indent && spot.char == ' ' then skipIndent indent rest else spot :: rest

/-- Empty lines of a block. -/
def blockBreaks (indent : Nat) : Nat → Spots → List Char × Spots
  | 0, s => ([], s)
  | fuel + 1, s =>
    let s := skipIndent indent s
    if isBreak s.char then
      let (b, s) := s.takeBreak
      let (more, s) := blockBreaks indent fuel s
      (b ++ more, s)
    else ([], s)

/-- The lines of a block from one on: their text without the breaks at the end, the last break of a line, the empty
lines after it, and what follows. -/
def blockLines (folded : Bool) (indent : Nat) :
    Nat → List Char → Spots → List Char × List Char × List Char × Spots
  | 0, breaks, s => ([], [], breaks, s)
  | fuel + 1, breaks, s =>
    if s.column == indent && s.char != endChar then
      let startsText := s.char != ' ' && s.char != '\t'
      let (line, s) := s.span fun c => !isBreakOrEnd c
      let (lineBreak, s) := s.takeBreak
      let (next, s) := blockBreaks indent (s.length + 1) s
      if s.column == indent && s.char != endChar then
        let goesOn := s.char != ' ' && s.char != '\t'
        let joint :=
          if folded && lineBreak == ['\n'] && startsText && goesOn then
            if next.isEmpty then [' '] else []
          else lineBreak
        let (more, last, tail, s) := blockLines folded indent fuel next s
        (breaks ++ line ++ joint ++ more, last, tail, s)
      else (breaks ++ line, lineBreak, next, s)
    else ([], [], breaks, s)

/-- A block scalar from its mark on, inside of a collection that is indented by `parent`. -/
def blockScalar? (folded : Bool) (parent : Int) (s : Spots) : Option (String × Spots) := do
  let (chomping, increment, s) ← blockHeader? (s.drop 1)
  let s ← s.restOfLine?
  let least := max 1 (parent + 1).toNat
  let (indent, breaks, s) :=
    match increment with
    | none =>
      let (breaks, widest, s) := leadingBreaks (s.length + 1) 0 s
      (max least widest, breaks, s)
    | some n =>
      let indent := least + n - 1
      let (breaks, s) := blockBreaks indent (s.length + 1) s
      (indent, breaks, s)
  let (text, lineBreak, tail, s) := blockLines folded indent (s.length + 1) breaks s
  let ending :=
    match chomping with
    | .clip => lineBreak
    | .strip => []
    | .keep => lineBreak ++ tail
  return (String.ofList (text ++ ending), s)

end StateMachine.Yaml
