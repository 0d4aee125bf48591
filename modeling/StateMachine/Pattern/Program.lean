import StateMachine.Pattern.Test

/-!
# Programs

A pattern with its flags worked out: a list of instructions for a search. Groups without a number are gone, and the
beginning and the end of a group are marks, numbered from 0.
-/

namespace StateMachine.Pattern

/-- An instruction of a search. -/
inductive Instruction where
  | take (t : Test)
  | check (a : Anchor) (m : Mode)
  | mark (index : Nat)
  | backref (group : Nat) (fold : Fold)
  | branch (alternatives : List (List Instruction))
  /-- Takes several characters by one test. The next instruction may take one certain character only. -/
  | run (least : Nat) (most : Option Nat) (greed : Greed) (t : Test) (next : Option Nat)
  | repeated (least : Nat) (most : Option Nat) (greed : Greed) (body : List Instruction)
  | atomic (body : List Instruction)
  /-- Asks whether a text matches that begins so many characters further back. -/
  | look (back : Nat) (negated : Bool) (body : List Instruction)
  | conditional (group : Nat) (yes no : List Instruction)
  deriving Inhabited

/-- A pattern that is ready for a search. -/
abbrev Program := List Instruction

/-- The only character that a program can begin with, if its first instruction says so; of what follows if there is
no instruction. -/
def Program.first? (next : Option Nat) : Program → Option Nat
  | [] => next
  | .take t :: _ => t.only?
  | _ => none

/-- How far back an assertion begins. -/
def Direction.back : Direction → Nat
  | ahead => 0
  | behind least _ => least

/-- The test of a pattern that is one character, set or dot, whatever flags it is under. -/
def testOf? (m : Mode) : List Node → Option Test
  | [.code negated n] => some (m.codeTest negated n)
  | [.any] => some m.anyTest
  | [.set negated items] => some (m.setTest negated items)
  | [.group none on off body] => testOf? (m.change on off) body
  | _ => none

mutual
/-- The instructions of a node, before an instruction that may take one certain character only. -/
def Node.program (m : Mode) (next : Option Nat) : Node → Program
  | .code negated n => [.take (m.codeTest negated n)]
  | .any => [.take m.anyTest]
  | .set negated items => [.take (m.setTest negated items)]
  | .anchor a => [.check a m]
  | .backref index => [.backref index m.fold]
  | .branch alternatives => [.branch (programsOf m alternatives)]
  | .group none on off body => programOf (m.change on off) next body
  | .group (some index) on off body =>
    .mark (2 * (index - 1)) :: programOf (m.change on off) none body ++ [.mark (2 * (index - 1) + 1)]
  | .repeated least most greed body =>
    match testOf? m body with
    | some t => [.run least most greed t next]
    | none => [.repeated least most greed (programOf m none body)]
  | .atomic body => [.atomic (programOf m none body)]
  | .look direction negated body => [.look direction.back negated (programOf m none body)]
  | .conditional index yes no =>
    [.conditional index (programOf m (if no.isEmpty then next else none) yes) (programOf m next no)]

/-- The instructions of a pattern. -/
def programOf (m : Mode) (next : Option Nat) : List Node → Program
  | [] => []
  | n :: rest =>
    let after := programOf m next rest
    n.program m (after.first? next) ++ after

/-- The instructions of each of several patterns. -/
def programsOf (m : Mode) : List (List Node) → List Program
  | [] => []
  | body :: rest => programOf m none body :: programsOf m rest
end

end StateMachine.Pattern
