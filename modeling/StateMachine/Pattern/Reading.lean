import StateMachine.Pattern.Escape
import StateMachine.Text.CodePoint
import StateMachine.Text.Letter

/-!
# Reading patterns

The syntax of patterns. Reading goes from left to right and stops at the first error. The recursion is bounded by the
number of tokens.
-/

namespace StateMachine.Pattern

open Reading

/-! ## Sets of characters -/

/-- One member of a set as it was written. -/
def setItem (t : Token) : Reading SetItem :=
  match t.chars with
  | ['\\', c] => setEscape c
  | c :: _ => return .code (Text.codeOf c)
  | [] => return .code 0

/-- A range between two members. Both must be characters, in ascending order. -/
def setRange (t u : Token) (first last : SetItem) : Reading SetItem := do
  let bad {α : Type} : Reading α :=
    fail s!"bad character range {t.text}-{u.text}" (t.chars.length + 1 + u.chars.length)
  match first, last with
  | .code a, .code b => if b < a then bad else return .range a b
  | _, _ => bad

/-- The members of a set up to the closing bracket, after those that are read already, the last one first. `start` is
the position of the opening bracket. A closing bracket that comes first is a member. -/
def setItems (start : Nat) : Nat → List SetItem → Reading (List SetItem)
  | 0, items => return items
  | fuel + 1, items => do
    let unterminated {α : Type} : Reading α := do
      fail "unterminated character set" ((← tell) - start)
    match ← next with
    | none => unterminated
    | some t =>
      if t.isChar ']' && !items.isEmpty then return items.reverse
      else
        let item ← setItem t
        if ← accept '-' then
          match ← next with
          | none => unterminated
          | some u =>
            if u.isChar ']' then return (.code '-'.toNat :: item :: items).reverse
            else
              let last ← setItem u
              let range ← setRange t u item last
              setItems start fuel (range :: items)
        else setItems start fuel (item :: items)

/-- A set of characters after its opening bracket. -/
def charSet : Reading Node := do
  let start := (← tell) - 1
  let negated ← accept '^'
  let items ← setItems start ((← get).tokens.length + 1) []
  return .ofSet negated items

/-! ## Repetition -/

/-- Repetitions from here on cannot be counted. -/
def repeatLimit : Nat := Decimal.twoTo 32 - 1

/-- The value of a bound. -/
def boundValue (digits : List Char) : Reading Nat := do
  let bound := Decimal.digitsValue 10 digits
  if digitLimit < digits.length then throw (.excess (.digits digits.length))
  else if repeatLimit ≤ bound then throw (.excess .count)
  else return bound

/-- The value of an upper bound, if there is one. -/
def upperValue (digits : List Char) : Reading (Option Nat) := do
  if digits.isEmpty then return none else return some (← boundValue digits)

/-- The bounds of a repetition in braces, after the opening brace. Anything else in braces stands for itself. -/
def braceBounds : Reading (Option (Nat × Option Nat)) := do
  if ← peekIs (· == '\x7d') then return none
  else
    let saved ← get
    let here ← tell
    let low ← takeWhile Char.isDigit saved.tokens.length
    let high ← if ← accept ',' then takeWhile Char.isDigit saved.tokens.length else pure low
    if ← accept '\x7d' then
      let least ← boundValue low
      let most ← upperValue high
      if most.any (· < least) then
        fail "min repeat greater than max repeat" ((← tell) - here)
      else return some (least, most)
    else
      set saved
      return none

/-- The bounds of a repetition after its first character. -/
def repeatBounds (c : Char) : Reading (Option (Nat × Option Nat)) :=
  match c with
  | '?' => return some (0, some 1)
  | '*' => return some (0, none)
  | '+' => return some (1, none)
  | _ => braceBounds

/-- How a repetition proceeds, by the mark after its bounds. -/
def repeatGreed : Reading Greed := do
  if ← accept '?' then return .reluctant
  else if ← accept '+' then return .possessive
  else return .greedy

/-- Repeats the first of some items. `start` is the position of the first character of the repetition. -/
def repeatLast (start : Nat) (least : Nat) (most : Option Nat) (items : List Node) :
    Reading (List Node) := do
  let failHere {α : Type} (message : String) : Reading α := do
    fail message ((← tell) - start)
  match items with
  | [] => failHere "nothing to repeat"
  | last :: others =>
    if last.isAnchor then failHere "nothing to repeat"
    else if last.isRepeated then failHere "multiple repeat"
    else
      let greed ← repeatGreed
      return .repeated least most greed last.ungrouped :: others

/-! ## Flags -/

/-- The error for a character where a flag or one of the given marks must stand. -/
def failFlag {α : Type} (t : Token) (expected : String) : Reading α :=
  fail (if t.isOneOf Text.isLetter then "unknown flag" else s!"missing {expected}") t.chars.length

/-- Reads flags to be switched on from the given one, up to a colon, a minus or a closing parenthesis. -/
def flagsOn : Nat → Flag → List Flag → Reading (List Flag × Char)
  | 0, _, on => return (on, ':')
  | fuel + 1, flag, on => do
    if flag = .locale then
      fail "bad inline flags: cannot use 'L' flag with a str pattern"
    else if flag.choosesCharset && on.any fun f => f.choosesCharset && f != flag then
      fail "bad inline flags: flags 'a', 'u' and 'L' are incompatible"
    else
      let on := on ++ [flag]
      match ← next with
      | none => fail "missing -, : or )"
      | some t =>
        match t.char? with
        | some ')' => return (on, ')')
        | some '-' => return (on, '-')
        | some ':' => return (on, ':')
        | other =>
          match other.bind Flag.ofChar? with
          | some f => flagsOn fuel f on
          | none => failFlag t "-, : or )"

/-- Reads flags to be switched off from the given one, up to a colon. -/
def flagsOff : Nat → Flag → List Flag → Reading (List Flag)
  | 0, _, off => return off
  | fuel + 1, flag, off => do
    if flag.choosesCharset then
      fail "bad inline flags: cannot turn off flags 'a', 'u' and 'L'"
    else
      let off := off ++ [flag]
      match ← next with
      | none => fail "missing :"
      | some t =>
        match t.char? with
        | some ':' => return off
        | other =>
          match other.bind Flag.ofChar? with
          | some f => flagsOff fuel f off
          | none => failFlag t ":"

/-- Reads the flags of a group from its first character on. Flags for the whole pattern have no group. -/
def groupFlags (first : Option Flag) : Reading (Option (List Flag × List Flag)) := do
  let fuel := (← get).tokens.length + 1
  let (on, stop) ← match first with
    | some flag => flagsOn fuel flag []
    | none => pure ([], '-')
  if stop == ')' then
    modify fun r => { r with flags := r.flags ++ on }
    return none
  else if on.contains .template then
    fail "bad inline flags: cannot turn on global flag" 1
  else
    let off ←
      if stop == '-' then
        match ← next with
        | none => fail "missing flag"
        | some t =>
          match t.char?.bind Flag.ofChar? with
          | some flag => flagsOff fuel flag []
          | none => failFlag t "flag"
      else pure []
    if off.contains .template then fail "bad inline flags: cannot turn off global flag" 1
    else if on.any off.contains then fail "bad inline flags: flag turned on and off" 1
    else return some (on, off)

/-! ## Conditions -/

/-- Whole numbers from here on name no group. -/
def groupLimit : Nat := Decimal.twoTo 30 - 1

/-- The number that a condition is written with, if it is one. -/
def conditionNumber? (name : List Char) : Option Nat :=
  match Decimal.takeInt? 10 name with
  | some (negative, digits) =>
    let n := Decimal.digitsValue 10 digits
    if digitLimit < digits.length || (negative && n ≠ 0) then none else some n
  | none => none

/-- The group that a condition asks for. -/
def conditionGroup (name : List Char) : Reading Nat := do
  let text := String.ofList name
  if Text.isIdentifier name then
    match (← get).names.lookup text with
    | some index => return index
    | none => fail s!"unknown group name {Text.quoted text}" (name.length + 1)
  else
    match conditionNumber? name with
    | none => fail s!"bad character in group name {Text.quoted text}" (name.length + 1)
    | some 0 => fail "bad group number" (name.length + 1)
    | some index =>
      if groupLimit ≤ index then fail s!"invalid group reference {index}" (name.length + 1)
      else
        let place := (← tell) - name.length - 1
        modify fun r =>
          if r.conditions.any (·.1 == index) then r
          else { r with conditions := r.conditions ++ [(index, place)] }
        return index

/-! ## Expressions -/

/-- Where an expression stands. -/
structure Scope where
  /-- Blanks and comments do not count. -/
  verbose : Bool
  /-- Not inside of any parentheses. -/
  top : Bool
  /-- At the top, in the first alternative. -/
  first : Bool

/-- Skips a comment up to the end of its line. -/
def skipLine : Nat → Reading Unit
  | 0 => return ()
  | fuel + 1 => do
    match ← next with
    | none => return ()
    | some t => if t.isChar '\n' then return () else skipLine fuel

/-- Skips a comment up to its closing parenthesis. -/
def skipComment (start : Nat) : Nat → Reading Unit
  | 0 => return ()
  | fuel + 1 => do
    match ← peek with
    | none => fail "missing ), unterminated comment" ((← tell) - start)
    | some t =>
      let _ ← next
      if t.isChar ')' then return () else skipComment start fuel

/-- Takes the parenthesis that closes what was opened at `start`. -/
def closeParen (start : Nat) : Reading Unit := do
  if ← accept ')' then return ()
  else fail "missing ), unterminated subpattern" ((← tell) - start)

/-- The blanks that verbose patterns skip. -/
def isSkipped (c : Char) : Bool := [' ', '\t', '\n', '\r', '\x0b', '\x0c'].contains c

/-- How a group in parentheses begins. -/
inductive Opening where
  | capture (name : Option (List Char))
  | flagged (on off : List Flag)
  | atomic
  | look (behind negated : Bool)
  | condition (index : Nat)
  /-- A whole item, or nothing. -/
  | complete (item : Option Node)
  /-- Flags for the whole pattern. -/
  | global

/-- Reads what follows `(?P`. -/
def namedOpening : Reading Opening := do
  if ← accept '<' then
    let name ← takeName '>' "group name"
    checkName name
    return .capture (some name)
  else if ← accept '=' then
    let name ← takeName ')' "group name"
    checkName name
    let r ← get
    match r.names.lookup (String.ofList name) with
    | none =>
      fail s!"unknown group name {Text.quoted (String.ofList name)}" (name.length + 1)
    | some index =>
      if !r.isClosed index then fail "cannot refer to an open group" (name.length + 1)
      else
        checkReference index
        return .complete (some (.backref index))
  else
    match ← next with
    | none => fail "unexpected end of pattern"
    | some t => fail s!"unknown extension ?P{t.text}" (t.chars.length + 2)

/-- Reads what follows `(?<`. -/
def behindOpening : Reading Opening := do
  match ← next with
  | none => fail "unexpected end of pattern"
  | some t =>
    match t.char? with
    | some '=' => return .look true false
    | some '!' => return .look true true
    | _ => fail s!"unknown extension ?<{t.text}" (t.chars.length + 2)

/-- Reads how a group begins, after its parenthesis at `start`. -/
def opening (start : Nat) : Reading Opening := do
  if !(← accept '?') then return .capture none
  else
    match ← next with
    | none => fail "unexpected end of pattern"
    | some t =>
      match t.char? with
      | some 'P' => namedOpening
      | some ':' => return .flagged [] []
      | some '#' =>
        skipComment start ((← get).tokens.length + 1)
        return .complete none
      | some '=' => return .look false false
      | some '!' => return .look false true
      | some '<' => behindOpening
      | some '(' =>
        let name ← takeName ')' "group name"
        let index ← conditionGroup name
        checkReference index
        return .condition index
      | some '>' => return .atomic
      | other =>
        let flag := other.bind Flag.ofChar?
        if flag.isSome || other == some '-' then
          match ← groupFlags flag with
          | some (on, off) => return .flagged on off
          | none => return .global
        else fail s!"unknown extension ?{t.text}" (t.chars.length + 1)

/-- Whether a group with these flags is verbose. -/
def verboseInside (outer : Bool) (on off : List Flag) : Bool :=
  (outer || on.contains .verbose) && !off.contains .verbose

mutual
/-- Reads a pattern up to a closing parenthesis or the end. -/
def expression : Nat → Scope → Reading (List Node)
  | 0, _ => return []
  | fuel + 1, scope => return Node.join (← alternatives fuel scope)

/-- Reads alternatives up to a closing parenthesis or the end. -/
def alternatives : Nat → Scope → Reading (List (List Node))
  | 0, _ => return []
  | fuel + 1, scope => do
    let items ← sequence fuel scope []
    if ← accept '|' then
      let flags := (← get).flags
      let verbose := if scope.top then flags.contains .verbose else scope.verbose
      let others ← alternatives fuel { scope with verbose := verbose, first := false }
      return items :: others
    else return [items]

/-- Reads items up to a bar, a closing parenthesis or the end, after those that are read already, the last one first.
Groups that mean nothing are left out in the end. -/
def sequence : Nat → Scope → List Node → Reading (List Node)
  | 0, _, items => return items.reverse.flatMap Node.ungrouped
  | fuel + 1, scope, items => do
    if (← peek).isNone || (← peekIs fun c => c == '|' || c == ')') then
      return items.reverse.flatMap Node.ungrouped
    else
      let start ← tell
      let t := (← next).getD ⟨[], start⟩
      match t.chars with
      | ['\\', c] =>
        let item ← escape c
        sequence fuel scope (item :: items)
      | c :: _ =>
        let literal : Node := .code false (Text.codeOf c)
        if scope.verbose && isSkipped c then sequence fuel scope items
        else if scope.verbose && c == '#' then
          skipLine ((← get).tokens.length + 1)
          sequence fuel scope items
        else if c == '[' then
          let item ← charSet
          sequence fuel scope (item :: items)
        else if ['*', '+', '?', '\x7b'].contains c then
          match ← repeatBounds c with
          | none => sequence fuel scope (literal :: items)
          | some (least, most) =>
            let items ← repeatLast start least most items
            sequence fuel scope items
        else if c == '.' then sequence fuel scope (.any :: items)
        else if c == '^' then sequence fuel scope (.anchor .lineStart :: items)
        else if c == '$' then sequence fuel scope (.anchor .lineEnd :: items)
        else if c == '(' then
          match ← opening start with
          | .global =>
            if !scope.first || !items.isEmpty then
              fail "global flags not at the start of the expression" ((← tell) - start)
            else
              let verbose := (← get).flags.contains .verbose
              sequence fuel { scope with verbose := verbose } items
          | .complete item => sequence fuel scope (item.toList ++ items)
          | other =>
            let item ← groupBody fuel scope start other
            sequence fuel scope (item :: items)
        else sequence fuel scope (literal :: items)
      | [] => return items

/-- Reads the rest of a group from its opening on. -/
def groupBody : Nat → Scope → Nat → Opening → Reading Node
  | 0, _, _, _ => return .any
  | fuel + 1, scope, start, how => do
    let inner : Scope := ⟨scope.verbose, false, false⟩
    match how with
    | .capture name =>
      let index ← openGroup name
      let body ← expression fuel inner
      closeParen start
      closeGroup index body
      return .group (some index) [] [] body
    | .flagged on off =>
      let body ← expression fuel { inner with verbose := verboseInside scope.verbose on off }
      closeParen start
      return .group none on off body
    | .atomic =>
      let body ← expression fuel inner
      closeParen start
      return .atomic body
    | .look behind negated =>
      let outer := (← get).innerGroups
      if behind && outer.isNone then
        modify fun r => { r with innerGroups := some (r.groups + 1) }
      let body ← expression fuel inner
      if behind && outer.isNone then modify fun r => { r with innerGroups := none }
      closeParen start
      let (least, most) := widthOf (← get).closed body
      return .look (if behind then .behind least most else .ahead) negated body
    | .condition index =>
      let yes ← sequence fuel inner []
      let no ←
        if ← accept '|' then
          let no ← sequence fuel inner []
          if ← peekIs (· == '|') then
            fail "conditional backref with more than two branches"
          else pure no
        else pure []
      closeParen start
      return .conditional index yes no
    | .complete _ | .global => return .any
end

/-! ## Whole patterns -/

/-- A pattern that was read. -/
structure Expression where
  nodes : List Node
  /-- The flags set for the whole pattern. -/
  flags : List Flag
  /-- The lengths of the texts that a group matches. -/
  width : Width

/-- The names of repetitions in errors. -/
def Greed.name : Greed → String
  | greedy => "MAX_REPEAT"
  | reluctant => "MIN_REPEAT"
  | possessive => "POSSESSIVE_REPEAT"

mutual
/-- What is wrong with a node as a whole: a template holds no repetitions, and assertions that look back must do so for
one length. -/
def Node.defect? (template : Bool) : Node → Option String
  | .code .. | .any | .set .. | .anchor _ | .backref _ => none
  | .branch alternatives => defectOfAny? template alternatives
  | .group _ _ _ body | .atomic body => defectOf? template body
  | .repeated _ _ greed body =>
    if template then some s!"internal: unsupported template operator {greed.name}"
    else defectOf? template body
  | .look direction _ body =>
    match direction with
    | .ahead => defectOf? template body
    | .behind least most =>
      if least ≠ most then some "look-behind requires fixed-width pattern" else defectOf? template body
  | .conditional _ yes no => defectOf? template yes <|> defectOf? template no

/-- What is wrong with a pattern as a whole. -/
def defectOf? (template : Bool) : List Node → Option String
  | [] => none
  | n :: rest => n.defect? template <|> defectOf? template rest

/-- What is wrong with the first of several patterns that has a defect. -/
def defectOfAny? (template : Bool) : List (List Node) → Option String
  | [] => none
  | body :: rest => defectOf? template body <|> defectOfAny? template rest
end

/-- Whether flags for the whole pattern choose two character sets. -/
def flagsClash (flags : List Flag) : Bool := flags.contains .ascii && flags.contains .unicode

/-- Reads a whole pattern. -/
def readAll : Reading Expression := do
  checkDangling
  let fuel := 4 * (← get).tokens.length + 8
  let nodes ← expression fuel ⟨false, true, true⟩
  if flagsClash (← get).flags then
    throw (.wrong ⟨"ASCII and UNICODE flags are incompatible", none⟩)
  else if (← peek).isSome then fail "unbalanced parenthesis"
  else
    let r ← get
    match r.conditions.find? fun (index, _) => r.groups < index with
    | some (index, place) => throw (.wrong ⟨s!"invalid group reference {index}", some place⟩)
    | none =>
      match defectOf? (r.flags.contains .template) nodes with
      | some message => throw (.wrong ⟨message, none⟩)
      | none => return ⟨nodes, r.flags, widthOf r.closed nodes⟩

/-- Reads a pattern. -/
def read (pattern : List Char) : Except Failure Expression :=
  (readAll.run { tokens := tokensFrom 0 pattern, size := pattern.length }).map (·.1)

end StateMachine.Pattern
