/-!
# Dates and times

Calendar days and instants as descriptions write them, with an optional offset from universal time.
-/

namespace StateMachine

/-- A number with leading zeros. -/
def padded (width n : Nat) : String :=
  let digits := Nat.toDigits 10 n
  String.ofList (List.replicate (width - digits.length) '0' ++ digits)

/-- A calendar day. -/
structure Date where
  year : Nat
  month : Nat
  day : Nat
  deriving DecidableEq, Repr, Inhabited

/-- The number of days of a month. -/
def daysIn (year month : Nat) : Nat :=
  let leap := year % 4 = 0 && (year % 100 ≠ 0 || year % 400 = 0)
  if month = 2 then if leap then 29 else 28
  else if [4, 6, 9, 11].contains month then 30 else 31

/-- The number of days of a year before a month. -/
def daysBefore (year month : Nat) : Nat :=
  (List.range (month - 1)).foldl (fun days n => days + daysIn year (n + 1)) 0

/-- The number of a day, counted from the first day of year 1. -/
def Date.number (d : Date) : Nat :=
  let past := d.year - 1
  past * 365 + past / 4 - past / 100 + past / 400 + daysBefore d.year d.month + d.day

/-- Year, month and day with dashes. -/
def Date.iso (d : Date) : String :=
  s!"{padded 4 d.year}-{padded 2 d.month}-{padded 2 d.day}"

/-- A time of a day, perhaps with the offset of its clock from universal time, in seconds. -/
structure Instant where
  date : Date
  hour : Nat
  minute : Nat
  second : Nat
  microsecond : Nat
  offset : Option Int
  deriving DecidableEq, Repr, Inhabited

/-- The microseconds from the beginning of year 1 to an instant by its own clock. -/
def Instant.ownClock (t : Instant) : Int :=
  (((t.date.number * 24 + t.hour) * 60 + t.minute) * 60 + t.second : Nat) * 1000000 + t.microsecond

/-- Whether two instants are one moment. One without an offset is like none with an offset. -/
def Instant.same (a b : Instant) : Bool :=
  match a.offset, b.offset with
  | none, none => a.ownClock == b.ownClock
  | some x, some y => a.ownClock - x * 1000000 == b.ownClock - y * 1000000
  | _, _ => false

/-- A signed offset in hours and minutes, and in seconds if there are any. -/
def offsetText (seconds : Int) : String :=
  let n := seconds.natAbs
  let sign := if seconds < 0 then "-" else "+"
  let rest := if n % 60 = 0 then "" else s!":{padded 2 (n % 60)}"
  s!"{sign}{padded 2 (n / 3600)}:{padded 2 (n / 60 % 60)}{rest}"

/-- Day and time joined by a separator, with microseconds and offset where there are any. -/
def Instant.joined (separator : String) (t : Instant) : String :=
  let fraction := if t.microsecond = 0 then "" else s!".{padded 6 t.microsecond}"
  let zone := (t.offset.map offsetText).getD ""
  s!"{t.date.iso}{separator}{padded 2 t.hour}:{padded 2 t.minute}:{padded 2 t.second}{fraction}{zone}"

/-- Day and time joined by a `T`. -/
def Instant.iso (t : Instant) : String := t.joined "T"

end StateMachine
