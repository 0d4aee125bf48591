import StateMachine.Decimal.Binary
import StateMachine.Text.CodePoint
import StateMachine.Text.Number

/-!
# Reading numbers

Whole numbers in a base, and numbers in decimal notation with an optional fraction and exponent. Both may have a sign
and stand between blanks; single underscores may stand between digits, which may be those of any script. `inf`,
`infinity` and `nan` are read in any case.
-/

namespace StateMachine.Decimal

/-! ## Digits -/

/-- The value of digits in a base; underscores count for nothing. -/
def digitsValue (base : Nat) (cs : List Char) : Nat :=
  cs.foldl (fun n c => if c == '_' then n else n * base + digitOf c) 0
where
  /-- The value of one digit; letters go on from ten in either case. -/
  digitOf (c : Char) : Nat :=
    if c.isDigit then c.toNat - 48
    else if c.isLower then c.toNat - 87 else c.toNat - 55

/-- A digit of a base. -/
def isDigitIn (base : Nat) (c : Char) : Bool := c.isAlphanum && digitsValue.digitOf c < base

/-- Whether a digit of a base comes next. -/
def startsWithDigit (base : Nat) : List Char → Bool
  | [] => false
  | c :: _ => isDigitIn base c

/-- Reads digits of a base with single underscores between them; answers the digits alone and what follows. -/
def takeDigits (base : Nat) : List Char → List Char × List Char
  | [] => ([], [])
  | [c] => if isDigitIn base c then ([c], []) else ([], [c])
  | c :: d :: rest =>
    if !isDigitIn base c then ([], c :: d :: rest)
    else if d == '_' && startsWithDigit base rest then
      let (ds, tail) := takeDigits base rest
      (c :: ds, tail)
    else
      let (ds, tail) := takeDigits base (d :: rest)
      (c :: ds, tail)

/-- A sign and what follows: true for a minus. -/
def takeSign : List Char → Bool × List Char
  | '-' :: rest => (true, rest)
  | '+' :: rest => (false, rest)
  | cs => (false, cs)

/-! ## Numbers with a fraction -/

/-- The number `mantissa * 10 ^ exponent`, rounded to nearest. Far outside of the range the answer is known. -/
def ofDecimal (mantissa : Nat) (exponent : Int) : Float :=
  if mantissa = 0 then 0.0
  else
    let size := exponent + (Nat.toDigits 10 mantissa).length
    if 400 < size then 1.0 / 0.0
    else if size < -400 then 0.0
    else
      let bits := nearestBits (mantissa * tenTo exponent.toNat) (tenTo (-exponent).toNat)
      Float.ofBits bits.toUInt64

/-- Reads an exponent: nothing, or `e` with an optional sign and digits. -/
def readExponent? : List Char → Option Int
  | [] => some 0
  | c :: rest =>
    if c == 'e' || c == 'E' then
      let (negative, body) := takeSign rest
      let (ds, tail) := takeDigits 10 body
      if ds.isEmpty || !tail.isEmpty then none
      else
        let n : Int := digitsValue 10 ds
        some (if negative then -n else n)
    else none

/-- Reads an unsigned number in positional or scientific notation. -/
def readUnsigned? (cs : List Char) : Option Float :=
  let (whole, afterWhole) := takeDigits 10 cs
  let (fraction, tail) := match afterWhole with
    | '.' :: more => takeDigits 10 more
    | more => ([], more)
  if whole.isEmpty && fraction.isEmpty then none
  else
    (readExponent? tail).map fun e =>
      ofDecimal (digitsValue 10 (whole ++ fraction)) (e - fraction.length)

/-! ## Numbers between blanks -/

/-- A character of a number in ASCII: a digit by its value, a blank beyond ASCII as a space. -/
def inAscii (c : Char) : Char :=
  if c.toNat < 127 then c
  else if Text.isBlank c then ' '
  else ((Text.digitValue? c).map Nat.digitChar).getD c

/-- Whether a blank may stand around a number. -/
def isAround (c : Char) : Bool := c == ' ' || ('\t' ≤ c && c ≤ '\r')

/-- The text of a number in ASCII, without the blanks around it. -/
def trimmed (cs : List Char) : List Char :=
  (((cs.map inAscii).dropWhile isAround).reverse.dropWhile isAround).reverse

/-- Drops the mark of a base, and an underscore after it. -/
def dropBaseMark (base : Nat) (cs : List Char) : List Char :=
  let afterBar : List Char → List Char
    | '_' :: rest => rest
    | rest => rest
  match cs with
  | '0' :: mark :: rest =>
    if [(2, 'b'), (8, 'o'), (16, 'x')].contains (base, mark.toLower) then afterBar rest else cs
  | _ => cs

/-- The sign and the digits of a whole number: true for a minus. -/
def takeInt? (base : Nat) (cs : List Char) : Option (Bool × List Char) :=
  let (negative, body) := takeSign (trimmed cs)
  match takeDigits base (dropBaseMark base body) with
  | ([], _) => none
  | (digits, []) => some (negative, digits)
  | _ => none

/-- Reads a whole number in a base, which may be marked by `0b`, `0o` or `0x`. -/
def readInt? (base : Nat) (cs : List Char) : Option Int :=
  (takeInt? base cs).map fun (negative, digits) =>
    let n : Int := digitsValue base digits
    if negative then -n else n

/-- Reads a number. -/
def readFloat? (cs : List Char) : Option Float :=
  let (negative, body) := takeSign (trimmed cs)
  let word := String.ofList (body.map Char.toLower)
  let magnitude :=
    if word = "inf" || word = "infinity" then some (1.0 / 0.0 : Float)
    else if word = "nan" then some (0.0 / 0.0 : Float)
    else readUnsigned? body
  magnitude.map fun x => if negative then -x else x

end StateMachine.Decimal
