import StateMachine.Decimal.Binary

/-!
# Patterns

The type of an event is a pattern: a regular expression with groups, back-references, look-around and scoped flags.
This module holds its abstract syntax.
-/

namespace StateMachine.Pattern

/-- The inline flags. -/
inductive Flag where
  | ascii
  | ignoreCase
  | locale
  | multiline
  | dotAll
  | verbose
  | template
  | unicode
  deriving DecidableEq, Repr

namespace Flag

/-- The letter of a flag. -/
def ofChar? : Char → Option Flag
  | 'a' => some ascii
  | 'i' => some ignoreCase
  | 'L' => some locale
  | 'm' => some multiline
  | 's' => some dotAll
  | 'x' => some verbose
  | 't' => some template
  | 'u' => some unicode
  | _ => none

/-- The flags that choose a character set exclude each other. -/
def choosesCharset : Flag → Bool
  | ascii | locale | unicode => true
  | _ => false

end Flag

/-- The classes of characters with an escape of their own. -/
inductive CharClass where
  | digit
  | space
  | word
  deriving DecidableEq, Repr

/-- A member of a set of characters. Characters are code points here. -/
inductive SetItem where
  | code (n : Nat)
  | range (first last : Nat)
  | inClass (c : CharClass)
  | notInClass (c : CharClass)
  deriving DecidableEq, Repr

/-- Places that match without taking a character. -/
inductive Anchor where
  | lineStart
  | lineEnd
  | textStart
  | textEnd
  | wordBoundary
  | notWordBoundary
  deriving DecidableEq, Repr

/-- How a repetition proceeds: as often as possible, as rarely as possible, or as often as possible without ever
giving back. -/
inductive Greed where
  | greedy
  | reluctant
  | possessive
  deriving DecidableEq, Repr

/-- Where an assertion looks. Backwards it looks at a text of known least and greatest length. -/
inductive Direction where
  | ahead
  | behind (least most : Nat)
  deriving DecidableEq, Repr

/-- Patterns are lists of nodes, one after the other. Groups are numbered from 1; one without a number captures
nothing and may change flags. A condition asks whether a group has matched. -/
inductive Node where
  | code (negated : Bool) (n : Nat)
  | any
  | set (negated : Bool) (items : List SetItem)
  | anchor (a : Anchor)
  | backref (index : Nat)
  | branch (alternatives : List (List Node))
  | group (index : Option Nat) (on off : List Flag) (body : List Node)
  | repeated (least : Nat) (most : Option Nat) (greed : Greed) (body : List Node)
  | atomic (body : List Node)
  | look (direction : Direction) (negated : Bool) (body : List Node)
  | conditional (index : Nat) (yes no : List Node)
  deriving Inhabited

namespace Node

/-- Whether a pattern is an anchor, which cannot be repeated. -/
def isAnchor : Node → Bool
  | anchor _ => true
  | _ => false

/-- Whether a pattern is a repetition, which cannot be repeated again without a group. -/
def isRepeated : Node → Bool
  | repeated .. => true
  | _ => false

/-- What stands in a group that has no number and no flags, which is the same as without the group. -/
def ungrouped : Node → List Node
  | group none [] [] body => body
  | n => [n]

/-- Whether two patterns are the same without any pattern inside of them. -/
def sameLeaf : Node → Node → Bool
  | code negated n, code negated' n' => negated == negated' && n == n'
  | any, any => true
  | set negated items, set negated' items' => negated == negated' && items == items'
  | anchor a, anchor a' => a == a'
  | backref index, backref index' => index == index'
  | _, _ => false

/-- The members of a set of characters with one or more members. -/
def setItems? : Node → Option (List SetItem)
  | code false n => some [.code n]
  | set false items => some items
  | _ => none

/-- A set of characters. A set of one character is that character. -/
def ofSet (negated : Bool) (items : List SetItem) : Node :=
  match items.eraseDups with
  | [.code n] => code negated n
  | distinct => set negated distinct

/-- Several alternatives that do not begin alike. Single characters and sets make one set. -/
def ofAlternatives (alternatives : List (List Node)) : Node :=
  let items? := alternatives.mapM fun body =>
    match body with
    | [n] => n.setItems?
    | _ => none
  match items? with
  | some items => set false items.flatten.eraseDups
  | none => branch alternatives

/-- What all alternatives begin with, taken out of them, and the rest of each. -/
def splitCommon : Nat → List (List Node) → List Node × List (List Node)
  | 0, alternatives => ([], alternatives)
  | fuel + 1, alternatives =>
    match alternatives.head?.bind (·.head?) with
    | some first =>
      if alternatives.all fun body => body.head?.any first.sameLeaf then
        let (common, rest) := splitCommon fuel (alternatives.map (·.drop 1))
        (first :: common, rest)
      else ([], alternatives)
    | none => ([], alternatives)

/-- The pattern of one or more alternatives. -/
def join : List (List Node) → List Node
  | [body] => body
  | alternatives =>
    let (common, rest) := splitCommon ((alternatives.map (·.length)).foldl max 0) alternatives
    common ++ [ofAlternatives rest]

end Node

/-! ## Lengths -/

/-- Least and greatest length of the texts that match. -/
abbrev Width := Nat × Nat

/-- Lengths from here on count as unbounded. -/
def unboundedWidth : Nat := Decimal.twoTo 32 - 1

/-- Lengths with their bounds. A least length is never unbounded. -/
def Width.ofLengths (least most : Nat) : Width := (min least (unboundedWidth - 1), min most unboundedWidth)

/-- The lengths of two texts, one after the other. -/
def Width.add (a b : Width) : Width := .ofLengths (a.1 + b.1) (a.2 + b.2)

/-- The lengths of either of two texts. -/
def Width.join (a b : Width) : Width := (min a.1 b.1, max a.2 b.2)

/-- The lengths of a repetition. -/
def Width.times (w : Width) (least : Nat) (most : Option Nat) : Width :=
  .ofLengths (w.1 * least) (w.2 * most.getD unboundedWidth)

mutual
/-- The lengths of the texts that a node matches, given those of the groups it refers to. Anchors and assertions take
no text. -/
def Node.width (groups : List (Nat × Width)) : Node → Width
  | .anchor _ | .look .. => (0, 0)
  | .code .. | .any | .set .. => (1, 1)
  | .branch alternatives => widthOfAny groups alternatives
  | .group _ _ _ body | .atomic body => widthOf groups body
  | .repeated least most _ body => (widthOf groups body).times least most
  | .backref index => (groups.lookup index).getD (0, 0)
  | .conditional _ yes no => (widthOf groups yes).join (widthOf groups no)

/-- The lengths of the texts that a pattern matches. -/
def widthOf (groups : List (Nat × Width)) : List Node → Width
  | [] => (0, 0)
  | n :: rest => (n.width groups).add (widthOf groups rest)

/-- The lengths of the texts that one of some patterns matches. -/
def widthOfAny (groups : List (Nat × Width)) : List (List Node) → Width
  | [] => (unboundedWidth - 1, 0)
  | body :: rest => (widthOf groups body).join (widthOfAny groups rest)
end

end StateMachine.Pattern
