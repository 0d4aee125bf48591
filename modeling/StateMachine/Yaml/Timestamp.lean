import StateMachine.Decimal.Reading
import StateMachine.Value

/-!
# Dates and times in YAML

A day, or a day and a time of day with an optional fraction and zone.
-/

namespace StateMachine.Yaml

/-- The parts of a timestamp as they were written. -/
structure Timestamp where
  year : Nat
  month : Nat
  day : Nat
  /-- Hour, minute, second and the digits of the fraction. -/
  time : Option (Nat × Nat × Nat × List Char)
  /-- The offset of the zone in seconds. -/
  zone : Option Int

namespace Timestamp

/-- Takes from `least` to `most` digits. -/
def takeNumber? (least most : Nat) (cs : List Char) : Option (Nat × List Char) :=
  let digits := (cs.take most).takeWhile Char.isDigit
  if digits.length < least then none
  else some (Decimal.digitsValue 10 digits, cs.drop digits.length)

/-- Takes one character. -/
def takeChar? (c : Char) : List Char → Option (List Char)
  | d :: rest => if c == d then some rest else none
  | [] => none

def isSpaceOrTab (c : Char) : Bool := c == ' ' || c == '\t'

/-- A zone: `Z`, or hours and perhaps minutes after a sign. -/
def readZone? (cs : List Char) : Option (Option Int) := do
  match cs with
  | [] => return none
  | ['Z'] => return some 0
  | sign :: rest =>
    if sign != '+' && sign != '-' then none
    else
      let (hours, rest) ← takeNumber? 1 2 rest
      let minutes ← match rest with
        | [] => some 0
        | _ => do
          let (minutes, rest) ← takeNumber? 2 2 (← takeChar? ':' rest)
          if rest.isEmpty then some minutes else none
      let offset : Int := hours * 3600 + minutes * 60
      return some (if sign == '-' then -offset else offset)

/-- The time of day after its separator. -/
def readTime? (cs : List Char) : Option ((Nat × Nat × Nat × List Char) × Option Int) := do
  let (hour, cs) ← takeNumber? 1 2 cs
  let (minute, cs) ← takeNumber? 2 2 (← takeChar? ':' cs)
  let (second, cs) ← takeNumber? 2 2 (← takeChar? ':' cs)
  let (fraction, cs) := match cs with
    | '.' :: rest => (rest.takeWhile Char.isDigit, rest.dropWhile Char.isDigit)
    | rest => ([], rest)
  let blanks := cs.takeWhile isSpaceOrTab
  let rest := cs.drop blanks.length
  if rest.isEmpty && !blanks.isEmpty then none
  else return ((hour, minute, second, fraction), ← readZone? rest)

/-- Reads a timestamp. -/
def read? (cs : List Char) : Option Timestamp := do
  let (year, cs) ← takeNumber? 4 4 cs
  let (month, cs) ← takeNumber? 1 2 (← takeChar? '-' cs)
  let (day, cs) ← takeNumber? 1 2 (← takeChar? '-' cs)
  match cs with
  | [] => return ⟨year, month, day, none, none⟩
  | c :: rest =>
    let body ←
      if c == 'T' || c == 't' then some rest
      else if isSpaceOrTab c then some (rest.dropWhile isSpaceOrTab)
      else none
    let (time, zone) ← readTime? body
    return ⟨year, month, day, some time, zone⟩

/-- Whether a plain scalar is a timestamp. A day alone must have two digits for month and day. -/
def isPlain (cs : List Char) : Bool :=
  match read? cs with
  | some t => t.time.isSome || cs.length = 10
  | none => false

/-- The microseconds of a fraction; further digits are dropped. -/
def microseconds (fraction : List Char) : Nat :=
  let digits := fraction.take 6
  Decimal.digitsValue 10 digits * Decimal.tenTo (6 - digits.length)

/-- The day or instant that a timestamp means, if there is such a day and time. -/
def value? (t : Timestamp) : Option Value :=
  if t.year = 0 || t.month = 0 || 12 < t.month || t.day = 0 || daysIn t.year t.month < t.day then none
  else
    let date : Date := ⟨t.year, t.month, t.day⟩
    match t.time with
    | none => some (.date date)
    | some (hour, minute, second, fraction) =>
      if 24 ≤ hour || 60 ≤ minute || 60 ≤ second || t.zone.any (fun z => 86400 ≤ z.natAbs) then none
      else some (.instant ⟨date, hour, minute, second, microseconds fraction, t.zone⟩)

theorem isScalar_of_value? {t : Timestamp} {v : Value} (h : t.value? = some v) : v.isScalar = true := by
  rw [value?] at h
  split at h
  case isTrue => cases h
  case isFalse =>
    dsimp only at h
    split at h
    case h_1 => exact Option.some.inj h ▸ rfl
    case h_2 =>
      split at h
      case isTrue => cases h
      case isFalse => exact Option.some.inj h ▸ rfl

end Timestamp

end StateMachine.Yaml
