/-!
# Binary numbers

The binary64 values: the powers they are built on, the value that the bits of a number stand for, and the bits of the
number that is nearest to a quotient.
-/

namespace StateMachine.Decimal

/-- A power of two. -/
def twoTo (n : Nat) : Nat := Nat.pow 2 n

/-- A power of ten. -/
def tenTo (n : Nat) : Nat := Nat.pow 10 n

/-- The finite value `mantissa * 2 ^ exponent`. -/
structure Binary where
  mantissa : Nat
  exponent : Int
  /-- The gap to the value below is half the gap to the value above. -/
  narrowBelow : Bool

/-- The magnitude of a finite number, from its bits. -/
def Binary.ofBits (bits : Nat) : Binary :=
  let field : Nat := bits / twoTo 52 % 2048
  let fraction := bits % twoTo 52
  if field = 0 then ⟨fraction, -1074, false⟩
  else ⟨fraction + twoTo 52, (field : Int) - 1075, fraction = 0 && 1 < field⟩

/-- Whether the bits of a number carry a minus. -/
def isNegative (bits : Nat) : Bool := bits / twoTo 63 = 1

/-- The bits of the number nearest to a quotient of positive numbers. Of two that are equally near it is the even one;
beyond the range it is infinity. The quotient is counted in units of the last place, which leaves 53 bits unless the
number is so small that the units are the least ones there are. -/
def nearestBits (num den : Nat) : Nat :=
  let units (place : Int) : Nat × Nat := (num * twoTo (-place).toNat, den * twoTo place.toNat)
  let least : Int := (num.log2 : Int) - den.log2 - 53
  let (n, d) := units least
  let place := max (-1074) (if n / d < twoTo 53 then least else least + 1)
  let (n, d) := units place
  let below := n / d
  let twice := 2 * (n % d)
  let count := if d < twice || (twice = d && below % 2 = 1) then below + 1 else below
  if count < twoTo 52 then count
  else min ((place + 1075).toNat * twoTo 52 + (count - twoTo 52)) (2047 * twoTo 52)

end StateMachine.Decimal
