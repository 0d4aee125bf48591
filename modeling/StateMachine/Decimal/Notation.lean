import StateMachine.Decimal.Shortest

/-!
# The text of a number

How the digits of a number are laid out: which exponents are written positionally, how an exponent is written,
and what infinities and undefined results are called.
-/

namespace StateMachine.Decimal

/-- The decisions of a number format. -/
structure Notation where
  /-- Positional below `10 ^ high`. -/
  high : Int
  /-- Positional from `10 ^ low` on. -/
  low : Int
  /-- Least number of digits of an exponent. -/
  exponentWidth : Nat
  infinity : String
  undefined : String

/-- Attributes are written positionally from `0.0001` up to `10 ^ 16`, with `.0` for whole numbers, and with a
signed exponent of two digits or more elsewhere. -/
def attributeNotation : Notation := ⟨16, -4, 2, "inf", "nan"⟩

/-- Digits with the point after the first `place` of them, in positional notation. -/
def positional (digits : List Char) (place : Int) : List Char :=
  if place ≤ 0 then
    '0' :: '.' :: List.replicate (-place).toNat '0' ++ digits
  else
    let whole := digits.take place.toNat
    let fraction := digits.drop place.toNat
    whole ++ List.replicate (place.toNat - digits.length) '0' ++ '.' ::
      (if fraction.isEmpty then ['0'] else fraction)

/-- Digits in scientific notation. -/
def scientific (form : Notation) (digits : List Char) (exponent : Int) : List Char :=
  let body := Nat.toDigits 10 exponent.natAbs
  digits.take 1 ++ (if digits.length ≤ 1 then [] else '.' :: digits.drop 1)
    ++ 'e' :: (if exponent < 0 then '-' else '+')
    :: List.replicate (form.exponentWidth - body.length) '0' ++ body

/-- The digits of a decimal in the notation that its size asks for. -/
def Notation.layout (form : Notation) (d : Scientific) : List Char :=
  let digits := Nat.toDigits 10 d.digits
  let place := d.exponent + digits.length
  if form.low < place ∧ place ≤ form.high then positional digits place
  else scientific form digits (place - 1)

/-- The text of a number. -/
def Notation.render (form : Notation) (x : Float) : String :=
  let bits := x.toBits.toNat
  let sign := if isNegative bits then "-" else ""
  if x.isNaN then form.undefined
  else if x.isInf then sign ++ form.infinity
  else if bits % twoTo 63 = 0 then sign ++ "0.0"
  else sign ++ String.ofList (form.layout (Binary.ofBits bits).shortest)

end StateMachine.Decimal
