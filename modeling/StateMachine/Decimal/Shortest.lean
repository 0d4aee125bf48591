import StateMachine.Decimal.Binary

/-!
# The fewest decimal digits that identify a binary number

A binary64 value stands for all reals that round to it. Its decimal form takes the fewest significant digits of
which some decimal lies in that interval, and of those decimals the nearest one. All arithmetic is on natural numbers.
-/

namespace StateMachine.Decimal

/-- The decimal `digits * 10 ^ exponent`. -/
structure Scientific where
  digits : Nat
  exponent : Int
  deriving DecidableEq, Repr

/-- A number of quarter units of the last place as a quotient: numerator and denominator. -/
def Binary.quarters (b : Binary) (n : Nat) : Nat × Nat :=
  (n * twoTo (b.exponent - 2).toNat, twoTo (2 - b.exponent).toNat)

/-- A decimal as a quotient. -/
def Scientific.quotient (d : Scientific) : Nat × Nat :=
  (d.digits * tenTo d.exponent.toNat, tenTo (-d.exponent).toNat)

/-- Order of two quotients. -/
def quotientLt (a b : Nat × Nat) : Bool := a.1 * b.2 < b.1 * a.2

/-- Whether a decimal reads back to the binary value: it lies between the midpoints to the neighbours, which
belong to the value exactly when its mantissa is even. -/
def Binary.readsBack (b : Binary) (d : Scientific) : Bool :=
  let low := b.quarters (4 * b.mantissa - if b.narrowBelow then 1 else 2)
  let high := b.quarters (4 * b.mantissa + 2)
  if b.mantissa % 2 = 0 then !quotientLt d.quotient low && !quotientLt high d.quotient
  else quotientLt low d.quotient && quotientLt d.quotient high

/-- The number of decimal digits before the point, negative for leading zeros after it. -/
def Binary.magnitude (b : Binary) : Int :=
  let (num, den) := b.quarters (4 * b.mantissa)
  ((Nat.toDigits 10 (num * tenTo 400 / den)).length : Int) - 400

/-- The two neighbours of the value on the grid of multiples of `10 ^ exponent`. -/
def Binary.neighbours (b : Binary) (exponent : Int) : Scientific × Scientific :=
  let (num, den) := b.quarters (4 * b.mantissa)
  let below := num * tenTo (-exponent).toNat / (den * tenTo exponent.toNat)
  (⟨below, exponent⟩, ⟨below + 1, exponent⟩)

/-- Whether the value is nearer to the lower of two neighbours on a grid; a tie goes to the even one. -/
def Binary.nearerBelow (b : Binary) (below above : Scientific) : Bool :=
  let (num, den) := b.quarters (4 * b.mantissa)
  let twice := (2 * num, den)
  let sum := Scientific.quotient ⟨below.digits + above.digits, below.exponent⟩
  quotientLt twice sum || (!quotientLt sum twice && below.digits % 2 = 0)

/-- The neighbour on a grid that reads back, the nearer one if both do. -/
def Binary.onGrid? (b : Binary) (exponent : Int) : Option Scientific :=
  let (below, above) := b.neighbours exponent
  match b.readsBack below, b.readsBack above with
  | true, true => some (if b.nearerBelow below above then below else above)
  | true, false => some below
  | false, true => some above
  | false, false => none

/-- Moves trailing zeros of the digits into the exponent. -/
def Scientific.stripZeros (d : Scientific) : Nat → Scientific
  | 0 => d
  | fuel + 1 =>
    if d.digits ≠ 0 ∧ d.digits % 10 = 0 then
      Scientific.stripZeros ⟨d.digits / 10, d.exponent + 1⟩ fuel
    else d

/-- The shortest decimal that reads back to a positive value. Seventeen digits always suffice. -/
def Binary.shortest (b : Binary) : Scientific :=
  let magnitude := b.magnitude
  let found := (List.range 17).findSome? fun n => b.onGrid? (magnitude - (n + 1 : Nat))
  (found.getD (b.neighbours (magnitude - 17)).1).stripZeros 20

end StateMachine.Decimal
