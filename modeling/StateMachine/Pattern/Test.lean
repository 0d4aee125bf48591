import StateMachine.Pattern.Fold
import StateMachine.Text.CodePoint
import StateMachine.Text.Letter

/-!
# Tests of one character

What a character, a set or a dot of a pattern asks of one character of a text. A set that is compared by lower-case
forms keeps the characters beyond the first plane as they were written: single ones are compared with the lower-case
form, ranges with the lower-case form and its upper-case form.
-/

namespace StateMachine.Pattern

/-- A part of a set of characters. -/
inductive Member where
  /-- The characters of a range. -/
  | range (first last : Nat)
  /-- The characters that are compared like one of a range. -/
  | folded (fold : Fold) (first last : Nat)
  /-- The characters of a range, and those whose upper-case forms are in it. -/
  | widened (first last : Nat)
  | inClass (negated ascii : Bool) (c : CharClass)
  deriving DecidableEq, Repr

/-- A test of one character. -/
inductive Test where
  | code (negated : Bool) (n : Nat)
  /-- The character whose form for comparison is the given one. -/
  | lower (fold : Fold) (negated : Bool) (n : Nat)
  | any (withBreaks : Bool)
  /-- The characters whose form for comparison is in a set. -/
  | set (fold : Fold) (negated : Bool) (members : List Member)
  deriving DecidableEq, Repr

/-- Whether a character belongs to a class. -/
def CharClass.has (cls : CharClass) (ascii : Bool) (c : Char) : Bool :=
  match cls with
  | .digit => if ascii then c.isDigit else Text.isDecimalDigit c
  | .space =>
    if ascii then [' ', '\t', '\n', '\r', '\x0b', '\x0c'].contains c else Text.isBlank c
  | .word => if ascii then c.isAlphanum || c == '_' else Text.isWord c

/-- Whether a character is in a part of a set. -/
def Member.has (c : Nat) : Member → Bool
  | range first last => first ≤ c && c ≤ last
  | folded fold first last => (fold.variants c).any fun n => first ≤ n && n ≤ last
  | widened first last =>
    let upper := Text.upperCode c
    (first ≤ c && c ≤ last) || (first ≤ upper && upper ≤ last)
  | inClass negated ascii cls => cls.has ascii (Text.ofCode c) != negated

namespace Test

/-- Whether a character passes the test. -/
def holds (c : Nat) : Test → Bool
  | code negated n => (c == n) != negated
  | lower fold negated n => (fold.lower c == n) != negated
  | any withBreaks => withBreaks || c != 0x0a
  | set fold negated members => members.any (Member.has (fold.lower c)) != negated

/-- Whether the test is one of a set that is compared by other forms of characters. -/
def isFoldedSet : Test → Bool
  | set fold _ _ => fold != .exact
  | _ => false

/-- The character that alone passes the test. -/
def only? : Test → Option Nat
  | code false n => some n
  | _ => none

end Test

/-! ## Tests from patterns -/

/-- The last code point of the first plane. -/
def lastOfFirstPlane : Nat := 0xffff

/-- The test for a character of a pattern. -/
def Mode.codeTest (m : Mode) (negated : Bool) (n : Nat) : Test :=
  if !m.fold.isCased n then .code negated n
  else
    let low := m.fold.lower n
    match m.fold, caseClass low with
    | .unicode, first :: second :: rest =>
      .set .unicode negated ((first :: second :: rest).map fun k => .range k k)
    | fold, _ => .lower fold negated low

/-- The parts of a set that stand for the characters of a range. -/
def Fold.range (fold : Fold) (first last : Nat) : List Member :=
  if fold = .exact then [.range first last]
  else
    (if first ≤ lastOfFirstPlane then [.folded fold first (min last lastOfFirstPlane)] else [])
      ++ (if lastOfFirstPlane < last then [.widened first last] else [])

/-- The parts of a set that an item stands for. -/
def Fold.members (fold : Fold) (ascii : Bool) : SetItem → List Member
  | .code n => if lastOfFirstPlane < n then [.range n n] else fold.range n n
  | .range first last => fold.range first last
  | .inClass cls => [.inClass false ascii cls]
  | .notInClass cls => [.inClass true ascii cls]

/-- Whether letter case makes a difference for an item. All characters beyond the first plane count as if it did. -/
def Fold.matters (fold : Fold) : SetItem → Bool
  | .code n => fold != .exact && (lastOfFirstPlane < n || fold.isCased n)
  | .range first last => fold != .exact && (lastOfFirstPlane < last || fold.anyCased first last)
  | .inClass _ | .notInClass _ => false

/-- The test for a set of a pattern. It compares characters as they are if letter case makes no difference for it. -/
def Mode.setTest (m : Mode) (negated : Bool) (items : List SetItem) : Test :=
  let fold := if items.any m.fold.matters then m.fold else .exact
  .set fold negated (items.flatMap (fold.members m.ascii))

/-- The test for a dot of a pattern. -/
def Mode.anyTest (m : Mode) : Test := .any m.dotAll

end StateMachine.Pattern
