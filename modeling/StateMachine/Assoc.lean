/-!
# Ordered associations

Keys and values in the order in which the keys first came. A present key keeps its place when it gets a new value.
-/

namespace StateMachine.Assoc

variable {κ α : Type} [BEq κ]

/-- Binds a key: in place if it is present, else at the end. -/
def put (key : κ) (value : α) : List (κ × α) → List (κ × α)
  | [] => [(key, value)]
  | (k, v) :: rest => if k == key then (k, value) :: rest else (k, v) :: put key value rest

/-- Removes a key. -/
def erase (key : κ) (entries : List (κ × α)) : List (κ × α) :=
  entries.filter fun entry => !(entry.1 == key)

/-- Whether a key is bound. -/
def has (key : κ) (entries : List (κ × α)) : Bool :=
  entries.any fun entry => entry.1 == key

/-- Binds one entry after the other. -/
def ofList (entries : List (κ × α)) : List (κ × α) :=
  entries.foldl (fun acc entry => put entry.1 entry.2 acc) []

/-- Collects values under their keys. -/
def groupBy (key : α → κ) (xs : List α) : List (κ × List α) :=
  xs.foldl (fun groups x => put (key x) ((groups.lookup (key x)).getD [] ++ [x]) groups) []

end StateMachine.Assoc
