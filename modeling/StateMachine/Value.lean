import StateMachine.Assoc
import StateMachine.Calendar
import StateMachine.Decimal.Binary

/-!
# Attribute values

Attributes and the records of a description hold values of any shape. A mapping keeps the order of its keys, which
may be values of any kind.
-/

namespace StateMachine

/-- A value of an attribute or of a field of a description. A calculation without a result gives an undefined number;
such a number is equal to no other, and to itself only where its occurrence is known. -/
inductive Value where
  | null
  | bool (b : Bool)
  | int (n : Int)
  | float (x : Float)
  | undefined (occurrence : Option Nat)
  | text (s : String)
  | bytes (bs : List UInt8)
  | date (d : Date)
  | instant (t : Instant)
  | list (xs : List Value)
  | tuple (xs : List Value)
  | set (xs : List Value)
  | map (entries : List (Value × Value))
  deriving Inhabited

/-- A mapping: keys with their values, in order. -/
abbrev Dict := List (Value × Value)

namespace Value

/-- The whole number that a number is equal to. -/
def wholeOf (x : Float) : Option Int :=
  if x.isNaN || x.isInf then none
  else
    let bits := x.toBits.toNat
    let b := Decimal.Binary.ofBits bits
    let scale := Decimal.twoTo (-b.exponent).toNat
    if b.mantissa % scale = 0 then
      let size := b.mantissa / scale * Decimal.twoTo b.exponent.toNat
      some (if Decimal.isNegative bits then -(size : Int) else size)
    else none

/-- The whole number that a truth value or a number is equal to. -/
def whole? : Value → Option Int
  | bool b => some (if b then 1 else 0)
  | int n => some n
  | float x => wholeOf x
  | _ => none

mutual
/-- Whether two values are the same key of a mapping. Numbers and truth values are compared as numbers. -/
def same : Value → Value → Bool
  | null, null => true
  | text s, text t => s == t
  | bytes a, bytes b => a == b
  | date a, date b => a == b
  | instant a, instant b => a.same b
  | float x, float y => x == y
  | undefined (some a), undefined (some b) => a == b
  | tuple xs, tuple ys => sameAll xs ys
  | a, b =>
    match a.whole?, b.whole? with
    | some m, some n => m == n
    | _, _ => false

/-- Whether two lists have the same keys at the same places. -/
def sameAll : List Value → List Value → Bool
  | [], [] => true
  | x :: xs, y :: ys => x.same y && sameAll xs ys
  | _, _ => false
end

instance : BEq Value := ⟨same⟩

/-- Whether a value counts as given: not null, false, zero or empty. -/
def truthy : Value → Bool
  | null => false
  | bool b => b
  | int n => n != 0
  | float x => !(x == 0.0)
  | undefined _ => true
  | text s => !s.isEmpty
  | bytes bs => !bs.isEmpty
  | date _ | instant _ => true
  | list xs | tuple xs | set xs => !xs.isEmpty
  | map entries => !entries.isEmpty

/-- Whether a value holds no others. -/
def isScalar : Value → Bool
  | list _ | tuple _ | set _ | map _ => false
  | _ => true

/-- The name of a value's type in diagnostics. -/
def typeName : Value → String
  | null => "NoneType"
  | bool _ => "bool"
  | int _ => "int"
  | float _ | undefined _ => "float"
  | text _ => "str"
  | bytes _ => "bytes"
  | date _ => "date"
  | instant _ => "datetime"
  | list _ => "list"
  | tuple _ => "tuple"
  | set _ => "set"
  | map _ => "dict"

/-- The value of a number that occurs once. -/
def ofFloat (x : Float) (occurrence : Option Nat := none) : Value :=
  if x.isNaN then undefined occurrence else float x

theorem isScalar_ofFloat (x : Float) (occurrence : Option Nat) : (ofFloat x occurrence).isScalar = true := by
  rw [ofFloat]
  split <;> rfl

/-- A text, or null where there is none. -/
def ofText? : Option String → Value
  | some s => text s
  | none => null

/-- A list of texts. -/
def ofTexts (texts : List String) : Value := list (texts.map text)

/-- The value under a textual key. -/
def field? (entries : Dict) (name : String) : Option Value :=
  entries.lookup (text name)

end Value

end StateMachine
