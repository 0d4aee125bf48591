import StateMachine.Decimal.Reading

/-!
# Numbers in YAML

Which plain scalars are numbers, and what they mean. Whole numbers may be binary, octal, decimal, hexadecimal or in
base sixty (`1:30` is 90); others need a point, and an exponent needs its sign.
-/

namespace StateMachine.Yaml

/-- The parts of a text between separators. -/
def pieces (separator : Char) : List Char → List (List Char)
  | [] => [[]]
  | c :: rest =>
    if c == separator then [] :: pieces separator rest
    else
      match pieces separator rest with
      | [] => [[c]]
      | part :: parts => (c :: part) :: parts

/-- A text that begins as `first` says and goes on as `more` says. -/
def isRun (first more : Char → Bool) : List Char → Bool
  | [] => false
  | c :: rest => first c && rest.all more

def isDigitOrBar (c : Char) : Bool := c.isDigit || c == '_'

def isPositiveDigit (c : Char) : Bool := c.isDigit && c != '0'

/-- A digit of base sixty. -/
def isSixtieth : List Char → Bool
  | [c] => c.isDigit
  | [c, d] => '0' ≤ c && c ≤ '5' && d.isDigit
  | _ => false

/-- Digits in base sixty: one that begins as `first` says, and at least one more after a colon. -/
def isSexagesimal (first : Char → Bool) (cs : List Char) : Bool :=
  match pieces ':' cs with
  | head :: part :: parts => isRun first isDigitOrBar head && (part :: parts).all isSixtieth
  | _ => false

/-! ## Whole numbers -/

/-- Whether a plain scalar is a whole number. -/
def isInt (cs : List Char) : Bool :=
  let body := (Decimal.takeSign cs).2
  match body with
  | '0' :: 'b' :: digits => !digits.isEmpty && digits.all fun c => c == '0' || c == '1' || c == '_'
  | '0' :: 'x' :: digits =>
    !digits.isEmpty && digits.all fun c =>
      isDigitOrBar c || ('a' ≤ c && c ≤ 'f') || ('A' ≤ c && c ≤ 'F')
  | ['0'] => true
  | '0' :: digits => digits.all fun c => ('0' ≤ c && c ≤ '7') || c == '_'
  | _ => isRun isPositiveDigit isDigitOrBar body || isSexagesimal isPositiveDigit body

/-- The whole number that a scalar means. -/
def readInt? (cs : List Char) : Option Int :=
  let (negative, body) := Decimal.takeSign (cs.filter (· != '_'))
  let magnitude : Option Int :=
    match body with
    | ['0'] => some 0
    | '0' :: 'b' :: digits => Decimal.readInt? 2 digits
    | '0' :: 'x' :: digits => Decimal.readInt? 16 digits
    | '0' :: digits => Decimal.readInt? 8 ('0' :: digits)
    | _ =>
      ((pieces ':' body).mapM (Decimal.readInt? 10)).map fun parts =>
        parts.foldl (fun n part => n * 60 + part) 0
  magnitude.map fun n => if negative then -n else n

/-! ## Other numbers -/

/-- An exponent with its sign, or nothing. -/
def isExponent : List Char → Bool
  | [] => true
  | e :: sign :: digits =>
    (e == 'e' || e == 'E') && (sign == '+' || sign == '-') && !digits.isEmpty
      && digits.all Char.isDigit
  | _ => false

/-- What may follow the point of a number: digits and an exponent. -/
def isFraction (cs : List Char) : Bool := isExponent (cs.dropWhile isDigitOrBar)

/-- Whether a plain scalar is a number with a point, an infinity or undefined. -/
def isFloat (cs : List Char) : Bool :=
  let body := (Decimal.takeSign cs).2
  let whole := body.takeWhile (· != '.')
  let words := [".inf", ".Inf", ".INF"].map String.toList
  let noNumber := [".nan", ".NaN", ".NAN"].map String.toList
  words.contains body || noNumber.contains cs
    || match body.drop whole.length with
      | '.' :: fraction =>
        (isRun Char.isDigit isDigitOrBar whole && isFraction fraction)
          || (isSexagesimal Char.isDigit whole && fraction.all isDigitOrBar)
          || (cs == body && whole.isEmpty && isRun Char.isDigit (fun _ => true) fraction
                && isFraction fraction)
      | _ => false

/-- The number nearest to a natural number. -/
def nearest (n : Nat) : Float := Float.ofBits (Decimal.nearestBits n 1).toUInt64

/-- Digits in base sixty, added up from the last one on. -/
def sumOfSixtieths (parts : List Float) : Float :=
  (parts.reverse.foldl (fun (sum, base) part => (sum + part * nearest base, base * 60))
    ((0.0 : Float), 1)).1

/-- The sign of a number and the rest of it, without underscores and in lower case. -/
def signedBody (cs : List Char) : Bool × List Char :=
  Decimal.takeSign ((cs.filter (· != '_')).map Char.toLower)

/-- Whether a number is the one that is written `.nan`. -/
def isUndefined (cs : List Char) : Bool := (signedBody cs).2 == ".nan".toList

/-- The number that a scalar means. -/
def readFloat? (cs : List Char) : Option Float :=
  let (negative, body) := signedBody cs
  let magnitude : Option Float :=
    if body == ".inf".toList then some (1.0 / 0.0)
    else if isUndefined cs then some (0.0 / 0.0)
    else if body.contains ':' then ((pieces ':' body).mapM Decimal.readFloat?).map sumOfSixtieths
    else Decimal.readFloat? body
  magnitude.map fun x => if negative then -x else x

end StateMachine.Yaml
