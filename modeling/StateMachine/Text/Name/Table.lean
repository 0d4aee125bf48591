import StateMachine.Text.CodePoint

/-!
# Tables of names

Names of characters that come one after the other have much in common. A table writes of each name only what is not in
the name before it.
-/

namespace StateMachine.Text

/-- The code points that have names, and the names in the same order, in pieces. Before what is new in a name stand two signs, for
the number of characters that it has in common with the name before it at the beginning and at the end. -/
structure NameTable where
  codes : Ranges
  names : List String

namespace NameTable

/-- The signs for the numbers from 0 on. -/
def signs : List Char := "abcdefghijklmnopqrstuvwxyz!$%&()*+,.:;<=>?^_|~".toList

/-- A character of a name. -/
def isNameChar (c : Char) : Bool := c.isUpper || c.isDigit || c == ' ' || c == '-'

/-- A name with characters from both ends of another one, and its own between them, last one first. -/
def joined (before : List Char) (front back : Nat) (own : List Char) : List Char :=
  before.take front ++ own.reverse ++ before.drop (before.length - back)

/-- The names in a text. What belongs to the first one is read already. -/
def namesFrom (before : List Char) (front back : Nat) (own : List Char) : List Char → List (List Char)
  | [] => [joined before front back own]
  | [c] => [joined before front back (c :: own)]
  | c :: d :: rest =>
    if isNameChar c then namesFrom before front back (c :: own) (d :: rest)
    else
      let name := joined before front back own
      name :: namesFrom name (signs.idxOf c) (signs.idxOf d) [] rest

/-- All names of a table. -/
def allNames (t : NameTable) : List (List Char) := (namesFrom [] 0 0 [] (t.names.flatMap String.toList)).drop 1

/-- The code points of all names of a table. -/
def allCodes (t : NameTable) : List Nat :=
  t.codes.flatMap fun (first, last) => List.range' first (last - first + 1)

/-- The code point of a name. -/
def find? (t : NameTable) (name : List Char) : Option Nat :=
  ((t.allNames.zip t.allCodes).find? fun (other, _) => other == name).map (·.2)

end NameTable

end StateMachine.Text
