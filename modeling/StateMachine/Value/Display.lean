import StateMachine.Value
import StateMachine.Decimal.Notation
import StateMachine.Text.Quoted

/-!
# Values in diagnostics

A value is shown with its texts quoted, so that `1` and `'1'` differ; alone, a text stands as it is.
-/

namespace StateMachine

/-- A truth value. -/
def boolText (b : Bool) : String := if b then "True" else "False"

/-- The number of a day as its constructor shows it. -/
def Date.shown (d : Date) : String :=
  s!"datetime.date({d.year}, {d.month}, {d.day})"

/-- An offset as its constructor shows it: days, and the seconds that remain. -/
def zoneShown (offset : Int) : String :=
  if offset = 0 then "datetime.timezone.utc"
  else
    let days := Int.fdiv offset 86400
    let seconds := Int.fmod offset 86400
    let dayPart := if days = 0 then [] else [s!"days={days}"]
    let secondPart := if seconds = 0 then [] else [s!"seconds={seconds}"]
    let parts := ", ".intercalate (dayPart ++ secondPart)
    s!"datetime.timezone(datetime.timedelta({parts}))"

/-- An instant as its constructor shows it. Zero microseconds are left out, and zero seconds with them. -/
def Instant.shown (t : Instant) : String :=
  let small :=
    if t.microsecond ≠ 0 then [t.second, t.microsecond]
    else if t.second ≠ 0 then [t.second] else []
  let parts := ([t.date.year, t.date.month, t.date.day, t.hour, t.minute] ++ small).map toString
  let zone := (t.offset.map fun o => [s!"tzinfo={zoneShown o}"]).getD []
  let joined := ", ".intercalate (parts ++ zone)
  s!"datetime.datetime({joined})"

namespace Value

mutual
/-- A value with all its texts quoted. -/
def quoted : Value → String
  | null => "None"
  | bool b => boolText b
  | int n => toString n
  | float x => Decimal.attributeNotation.render x
  | undefined _ => Decimal.attributeNotation.undefined
  | text s => Text.quoted s
  | bytes bs => Text.quotedBytes bs
  | date d => d.shown
  | instant t => t.shown
  | list xs => "[" ++ ", ".intercalate (quotedAll xs) ++ "]"
  | tuple xs =>
    match quotedAll xs with
    | [x] => "(" ++ x ++ ",)"
    | shown => "(" ++ ", ".intercalate shown ++ ")"
  | set xs => if xs.isEmpty then "set()" else "\x7b" ++ ", ".intercalate (quotedAll xs) ++ "\x7d"
  | map entries => "\x7b" ++ ", ".intercalate (quotedEntries entries) ++ "\x7d"

/-- Each value with its texts quoted. -/
def quotedAll : List Value → List String
  | [] => []
  | x :: xs => x.quoted :: quotedAll xs

/-- Each entry as key and value. -/
def quotedEntries : List (Value × Value) → List String
  | [] => []
  | (k, v) :: rest => (k.quoted ++ ": " ++ v.quoted) :: quotedEntries rest
end

/-- A value as it stands alone: a text as it is, a day or an instant in figures, all else as it is quoted. -/
def display : Value → String
  | text s => s
  | date d => d.iso
  | instant t => t.joined " "
  | v => v.quoted

end Value

end StateMachine
