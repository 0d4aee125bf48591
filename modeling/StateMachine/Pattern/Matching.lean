import StateMachine.Pattern.Program

/-!
# Matching

A search runs a program at a place of a text and hands each place that it can reach to what follows, in the order of
its preferences, until something accepts. It keeps marks, which tell where groups begin and end, and a pointer, which
tells where the last inner search came to. A way that fails leaves both as they were at its end: only those marks are
taken back that were added since, and all of them within the rounds of a repetition. So a condition may see marks of a
way that failed, and a possessive repetition goes on from where its last round gave up.
-/

namespace StateMachine.Pattern

/-! ## Marks -/

/-- The places of the marks up to the highest one that was passed. -/
abbrev Marks := List (Option Nat)

namespace Marks

/-- Sets a mark. Lower ones that were not passed have no place. -/
def put (marks : Marks) (index place : Nat) : Marks :=
  if index < marks.length then marks.set index (some place)
  else marks ++ List.replicate (index - marks.length) none ++ [some place]

/-- The place of a mark. -/
def place? (marks : Marks) (index : Nat) : Option Nat := marks[index]?.join

/-- Where a group begins and ends, if it has matched. -/
def group? (marks : Marks) (group : Nat) : Option (Nat × Nat) :=
  match marks.place? (2 * (group - 1)), marks.place? (2 * (group - 1) + 1) with
  | some first, some last => if first ≤ last then some (first, last) else none
  | _, _ => none

end Marks

/-! ## Searches -/

/-- What a search knows besides its place. -/
structure Search where
  pointer : Nat
  marks : Marks
  deriving DecidableEq, Repr

namespace Search

/-- The search with its pointer at a place. -/
def moved (s : Search) (place : Nat) : Search := { s with pointer := place }

/-- Takes back marks: all that changed since, or only those that were added. -/
def takeBack (s : Search) (all : Bool) (saved : Marks) : Search :=
  { s with marks := if all then saved else s.marks.take saved.length }

end Search

/-- Whether a search has found something, and what it knows then. -/
abbrev Outcome := Bool × Search

/-- What follows at a place. -/
abbrev Rest := Nat → Search → Outcome

/-- The end of an inner search. -/
def Rest.inner : Rest := fun p s => (true, s.moved p)

/-- The end of a search that must reach the end of the text. -/
def Rest.atEnd (text : Array Nat) : Rest := fun p s => if p = text.size then (true, s.moved p) else (false, s)

/-- Goes on with another way if the first one has failed. -/
def Outcome.orElse (o : Outcome) (other : Search → Outcome) : Outcome :=
  match o with
  | (true, s) => (true, s)
  | (false, s) => other s

/-- An outcome with the pointer put back if it is a failure. -/
def Outcome.back (o : Outcome) (place : Nat) : Outcome := o.orElse fun s => (false, s.moved place)

/-! ## Single characters -/

/-- Whether the character at a place passes a test. -/
def takes (text : Array Nat) (t : Test) (p : Nat) : Bool := text[p]?.any t.holds

/-- How many characters from a place on pass a test, at most so many. -/
def countRun (text : Array Nat) (t : Test) : Nat → Nat → Nat
  | 0, _ => 0
  | most + 1, p => if takes text t p then countRun text t most (p + 1) + 1 else 0

/-- Whether an anchor holds at a place. In an empty text no place is a word boundary, and none is not. -/
def Anchor.holds (a : Anchor) (m : Mode) (text : Array Nat) (p : Nat) : Bool :=
  let isBreak (c : Option Nat) : Bool := c == some 0x0a
  let before := if p = 0 then none else text[p - 1]?
  let after := text[p]?
  let isWord (c : Option Nat) : Bool := c.any fun n => CharClass.word.has m.ascii (Text.ofCode n)
  match a with
  | .textStart => p = 0
  | .textEnd => p = text.size
  | .lineStart => p = 0 || (m.multiline && isBreak before)
  | .lineEnd =>
    p = text.size || (isBreak after && (m.multiline || p + 1 = text.size))
  | .wordBoundary => !text.isEmpty && isWord before != isWord after
  | .notWordBoundary => !text.isEmpty && isWord before == isWord after

/-- Whether a part of a text stands at another place too, and ends within the text. -/
def sameText (text : Array Nat) (fold : Fold) (first last p : Nat) : Bool :=
  p + (last - first) ≤ text.size
    && (List.range (last - first)).all fun i =>
      (text[first + i]?.map fold.lower) == (text[p + i]?.map fold.lower)

/-- Whether a program cannot match at a place, because its first instruction takes one character as it is, by itself or
in a set, and that one does not stand there. -/
def Program.refuses (program : Program) (text : Array Nat) (p : Nat) : Bool :=
  match program with
  | .take (.code false n) :: _ => !takes text (.code false n) p
  | .take (.set .exact negated members) :: _ => !takes text (.set .exact negated members) p
  | _ => false

/-! ## Runs of characters -/

/-- Tries what follows after a run, then after one character less, as long as any of `spare` is left. -/
def giveBack (text : Array Nat) (inside : Bool) (next : Option Nat) (saved : Marks) (k : Rest) :
    Nat → Nat → Search → Outcome
  | spare, p, s =>
    let tried : Outcome :=
      if next.all (text[p]? == some ·) then
        (k p (s.moved p)).orElse fun s => (false, s.takeBack inside saved)
      else (false, s)
    match spare with
    | 0 => tried
    | spare + 1 => tried.orElse (giveBack text inside next saved k spare (p - 1))

/-- Tries what follows, then takes one character more, as long as `spare` allows. -/
def takeMore (text : Array Nat) (inside : Bool) (t : Test) (saved : Marks) (k : Rest) :
    Nat → Nat → Search → Outcome
  | spare, p, s =>
    (k p (s.moved p)).orElse fun s =>
      let s := (s.takeBack inside saved).moved p
      if takes text t p then
        let s := if t.isFoldedSet then s.moved (p + 1) else s
        match spare with
        | 0 => (false, s)
        | spare + 1 => takeMore text inside t saved k spare (p + 1) s
      else (false, s)

/-- Takes several characters by one test. -/
def takeRun (text : Array Nat) (inside : Bool) (least : Nat) (most : Option Nat) (greed : Greed) (t : Test)
    (next : Option Nat) (p : Nat) (s : Search) (k : Rest) : Outcome :=
  let left := text.size - p
  if left < least then (false, s)
  else
    let limit := if greed = .reluctant then least else (most.getD left)
    let count := countRun text t (min limit left) p
    let s := s.moved (if t.isFoldedSet then p + count else p)
    if count < least then (false, s)
    else
      match greed with
      | .greedy => giveBack text inside next s.marks k (count - least) (p + count) s
      | .possessive => k (p + count) s
      | .reluctant =>
        takeMore text inside t s.marks k (min (most.getD left) left - count) (p + count) s

/-! ## Repetitions -/

/-- Bounds of a repetition. -/
structure Bounds where
  least : Nat
  most : Option Nat

/-- Whether another round is allowed after so many. -/
def Bounds.allow (b : Bounds) (count : Nat) : Bool := b.most.all (count < ·)

/-- A round of a repetition, from a place on. -/
abbrev Round := Nat → Search → Rest → Outcome

/-- Rounds as often as possible, then what follows. `last` is where the last voluntary round began: one that began at
the same place is not tried again. -/
def repeatGreedy (round : Round) (b : Bounds) (k : Rest) : Nat → Nat → Option Nat → Rest
  | 0, _, _, p, s => (false, s.moved p)
  | fuel + 1, count, last, p, s =>
    let s := s.moved p
    let goOn (last : Option Nat) : Rest := repeatGreedy round b k fuel (count + 1) last
    if count < b.least then (round p s (goOn last)).back p
    else if b.allow count && last != some p then
      (round p s (goOn (some p))).orElse fun t => (k p ({ t with marks := s.marks }.moved p)).back p
    else (k p s).back p

/-- What follows, then rounds as rarely as possible. -/
def repeatReluctant (inside : Bool) (round : Round) (b : Bounds) (k : Rest) : Nat → Nat → Option Nat → Rest
  | 0, _, _, p, s => (false, s.moved p)
  | fuel + 1, count, last, p, s =>
    let s := s.moved p
    let goOn (last : Option Nat) : Rest := repeatReluctant inside round b k fuel (count + 1) last
    if count < b.least then (round p s (goOn last)).back p
    else
      (k p s).orElse fun t =>
        let t := (t.takeBack inside s.marks).moved p
        if b.allow count && last != some p then (round p t (goOn (some p))).back p else (false, t)

/-- Rounds as often as possible, each for good, from where the pointer is. What follows begins where the pointer is
then, also after a round that failed. A round that changes nothing is not tried again. -/
def repeatPossessive (round : Round) (b : Bounds) (start : Nat) (k : Rest) : Nat → Nat → Search → Outcome
  | 0, _, s => k s.pointer s
  | fuel + 1, count, s =>
    if count < b.least then
      match round s.pointer s Rest.inner with
      | (true, t) => repeatPossessive round b start k fuel (count + 1) t
      | (false, t) => (false, t.moved start)
    else if b.allow count then
      match round s.pointer s Rest.inner with
      | (true, t) => if t = s then k s.pointer s else repeatPossessive round b start k fuel (count + 1) t
      | (false, t) =>
        let t := t.takeBack false s.marks
        k t.pointer t
    else k s.pointer s

/-- Rounds that a repetition can need: those that it must make, and one for each character and some more. -/
def roundsNeeded (b : Bounds) (text : Array Nat) : Nat := b.least + 4 * text.size + 16

/-! ## Programs -/

mutual
/-- Runs an instruction at a place. Inside of a repetition, ways that fail leave no marks. -/
def Instruction.search (text : Array Nat) (inside : Bool) : Instruction → Nat → Search → Rest → Outcome
  | .take t, p, s, k => if takes text t p then k (p + 1) s else (false, s)
  | .check a m, p, s, k => if a.holds m text p then k p s else (false, s)
  | .mark index, p, s, k => k p { s with marks := s.marks.put index p }
  | .backref group fold, p, s, k =>
    match s.marks.group? group with
    | some (first, last) =>
      if sameText text fold first last p then k (p + (last - first)) s else (false, s)
    | none => (false, s)
  | .branch alternatives, p, s, k => searchAny text inside s.marks alternatives p s k
  | .run least most greed t next, p, s, k => takeRun text inside least most greed t next p s k
  | .repeated least most greed body, p, s, k =>
    let b : Bounds := ⟨least, most⟩
    match greed with
    | .greedy => repeatGreedy (searchAll text true body) b k (roundsNeeded b text) 0 none p s
    | .reluctant => repeatReluctant inside (searchAll text true body) b k (roundsNeeded b text) 0 none p s
    | .possessive => repeatPossessive (searchAll text inside body) b p k (roundsNeeded b text) 0 (s.moved p)
  | .atomic body, p, s, k =>
    match searchAll text inside body p (s.moved p) Rest.inner with
    | (true, t) => k t.pointer t
    | (false, t) => (false, t.moved p)
  | .look back negated body, p, s, k =>
    if p < back then if negated then k p s else (false, s)
    else
      match searchAll text inside body (p - back) (s.moved (p - back)) Rest.inner, negated with
      | (true, t), false => k p t
      | (false, t), true => k p (t.takeBack inside s.marks)
      | (_, t), _ => (false, t)
  | .conditional group yes no, p, s, k =>
    if (s.marks.group? group).isSome then searchAll text inside yes p s k
    else searchAll text inside no p s k

/-- Runs a program at a place. -/
def searchAll (text : Array Nat) (inside : Bool) : Program → Nat → Search → Rest → Outcome
  | [], p, s, k => k p s
  | i :: rest, p, s, k => i.search text inside p s fun p s => searchAll text inside rest p s k

/-- Runs one program after the other at a place until one succeeds. One that begins with a test of characters as they
are is left out where that fails. -/
def searchAny (text : Array Nat) (inside : Bool) (saved : Marks) : List Program → Nat → Search → Rest → Outcome
  | [], _, s, _ => (false, s)
  | body :: rest, p, s, k =>
    if body.refuses text p then searchAny text inside saved rest p s k
    else
      (searchAll text inside body p (s.moved p) k).orElse fun t =>
        searchAny text inside saved rest p (t.takeBack inside saved) k
end

/-- Whether a program matches a whole text. -/
def Program.matchesAll (program : Program) (text : Array Nat) : Bool :=
  (searchAll text false program 0 ⟨0, []⟩ (Rest.atEnd text)).1

end StateMachine.Pattern
