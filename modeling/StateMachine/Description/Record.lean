import StateMachine.Entity
import StateMachine.Fault
import StateMachine.Yaml.Meaning

/-!
# Records of a description

A record is a mapping that describes one thing. Its fields are read with their types; what it does not define is kept
as attributes.
-/

namespace StateMachine

/-- A record: its fields, where it stands in the description, and the file it is from. -/
structure Description.Record where
  fields : Dict
  place : String
  source : String

namespace Description

open Yaml (lineKey)

mutual
/-- A value without the line entries of its mappings. Only lists and mappings are searched. -/
def withoutLines : Value → Value
  | .map entries => .map (entriesWithoutLines entries)
  | .list xs => .list (allWithoutLines xs)
  | v => v

/-- Each value without line entries. -/
def allWithoutLines : List Value → List Value
  | [] => []
  | x :: xs => withoutLines x :: allWithoutLines xs

/-- The entries other than the line. -/
def entriesWithoutLines : List (Value × Value) → List (Value × Value)
  | [] => []
  | (k, v) :: rest =>
    if k == .text lineKey then entriesWithoutLines rest
    else (k, withoutLines v) :: entriesWithoutLines rest
end

/-- The fields that every record of an entity defines. -/
def commonKeys : List String := ["id", "description", "classes", "enum_id", "attrs", lineKey]

namespace Record

/-- The value of a field; one that is missing is null. -/
def value (r : Record) (key : String) : Value := (Value.field? r.fields key).getD .null

/-- The place of the record in its file. -/
def location (r : Record) : Location := ⟨r.source, r.value lineKey⟩

/-- The fault of a field of the wrong type. -/
def wrongType (r : Record) (key expected : String) (v : Value) : Fault :=
  .wrongType key expected v.typeName (some r.place)

/-- A text field. Numbers are taken as texts. -/
def text? (r : Record) (key : String) : Except Fault (Option String) :=
  match r.value key with
  | .null => .ok none
  | .text s => .ok (some s)
  | .int n => .ok (some (Value.int n).display)
  | .float x => .ok (some (Value.float x).display)
  | .undefined n => .ok (some (Value.undefined n).display)
  | v => .error (r.wrongType key "string" v)

/-- A text field that must be there. -/
def text (r : Record) (key : String) : Except Fault String := do
  match ← r.text? key with
  | some s => return s
  | none => .error (.missingField key (some r.place))

/-- A field that lists texts. A text alone counts as a list of one. -/
def texts (r : Record) (key : String) : Except Fault (List String) :=
  match r.value key with
  | .null => .ok []
  | .text s => .ok [s]
  | .list xs =>
    let members := xs.filterMap fun x => match x with
      | .text s => some s
      | _ => none
    if members.length = xs.length then .ok members
    else .error (r.wrongType key "list of strings" (.list xs))
  | v => .error (r.wrongType key "list of strings" v)

/-- The attributes: the fields that the record does not define, and what stands under `attrs`, which wins. -/
def attrs (r : Record) (ownKeys : List String) : Except Fault Dict :=
  let given := r.value "attrs"
  let explicit : Except Fault Dict :=
    match given with
    | .map entries => .ok entries
    | v => if v.truthy then .error (r.wrongType "attrs" "mapping" v) else .ok []
  explicit.map fun explicit =>
    let extra := r.fields.filter fun (k, _) => !(commonKeys ++ ownKeys).any fun name => k == .text name
    entriesWithoutLines (explicit.foldl (fun acc (k, v) => Assoc.put k v acc) extra)

/-- The common part of an entity. The id is read unless it is given. -/
def entity (r : Record) (ownKeys : List String) (id : Option String) : Except Fault Entity := do
  let id ← match id with
    | some id => .ok id
    | none => r.text "id"
  let description ← r.text? "description"
  let enumId ← r.text? "enum_id"
  let classIds ← r.texts "classes"
  let attrs ← r.attrs ownKeys
  return { id, description, location := some r.location, enumId, classIds, attrs, detail := .plain }

end Record

end Description

end StateMachine
