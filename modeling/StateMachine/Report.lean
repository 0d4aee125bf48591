import StateMachine.Diagnostic

/-!
# Reports

The result of checking one machine: how large it is, and what was found.
-/

namespace StateMachine

/-- What checking a machine found. -/
structure Report where
  machineId : Option String := none
  stateCount : Int := 0
  eventCount : Int := 0
  arcCount : Int := 0
  warnings : List Diagnostic := []
  errors : List Diagnostic := []
  deriving Inhabited

namespace Report

/-- A machine without errors is valid; warnings do not count. -/
def isValid (r : Report) : Bool := r.errors.isEmpty

/-- A list of findings under a heading, each after a mark. -/
def findingLines (heading mark : String) (findings : List Diagnostic) : List String :=
  if findings.isEmpty then []
  else
    let lines := findings.flatMap fun d =>
      s!"  {mark} {d.what}" :: (stated? d.fix).toList.map fun s => s!"    Fix: {s}"
    heading :: lines ++ [""]

/-- The last line of a report. -/
def status (r : Report) : String :=
  if r.isValid then "Status: ✓ Valid"
  else s!"Status: ✗ Invalid - {r.errors.length} error(s) found"

/-- The report as a text. -/
def render (r : Report) : String :=
  let head :=
    ["StateML Machine Report",
     String.ofList (List.replicate 40 '='),
     "Machine: " ++ (stated? r.machineId).getD "(unnamed)",
     s!"  states: {r.stateCount}",
     s!"  events: {r.eventCount}",
     s!"  arcs: {r.arcCount}",
     ""]
  "\n".intercalate
    (head ++ findingLines "Warnings:" "⚠" r.warnings ++ findingLines "Errors:" "✗" r.errors
      ++ [r.status])

end Report

end StateMachine
