import StateMachine.Proofs.Describing

/-!
# Descriptions of the right types

A field may be missing or null, or it has a type. Where a mapping belongs, whatever counts as nothing passes as well. A
description in which anything else has the wrong type makes no machine.
-/

namespace StateMachine

/-! ## Types of fields -/

namespace Value

def isNull : Value → Bool
  | null => true
  | _ => false

/-- The value counts as nothing: null, false, zero or empty. -/
def isFalsy (v : Value) : Bool := !v.truthy

/-- The value may stand in a field for texts: nothing, a text or a number. -/
def isTextual : Value → Bool
  | null | text _ | int _ | float _ | undefined _ => true
  | _ => false

def isText : Value → Bool
  | text _ => true
  | _ => false

/-- The value may stand in a field for lists of texts: nothing, a text or a list of texts. -/
def isListing : Value → Bool
  | null | text _ => true
  | list xs => xs.all isText
  | _ => false

/-- The value may stand where a mapping belongs that satisfies a condition. Some values may stand for none. -/
def isMapping (missing : Value → Bool) (p : Dict → Bool) : Value → Bool
  | map entries => p entries
  | v => missing v

end Value

namespace Description

/-- The fields for texts of the records of a section. -/
def Section.textKeys (s : Section) : List String :=
  ["id", "description", "enum_id"] ++
    match s with
    | classes | states => []
    | actions => ["code"]
    | events => ["type"]
    | arcs => ["from", "to", "event", "guard"]

/-- The fields for lists of texts of the records of a section. -/
def Section.listKeys (s : Section) : List String :=
  "classes" ::
    match s with
    | classes | actions | events => []
    | states => ["entry", "exit"]
    | arcs => ["handlers"]

section
variable (missing : Value → Bool)

/-- The fields of a record have the right types. -/
def isTypedRecord (textKeys listKeys : List String) (fields : Dict) : Bool :=
  textKeys.all (fun key => (valueOf fields key).isTextual) &&
    listKeys.all (fun key => (valueOf fields key).isListing) &&
    (valueOf fields "attrs").isMapping missing fun _ => true

/-- The section of a description is missing, or a list of records whose fields have the right types. -/
def Section.isTyped (s : Section) (data : Dict) : Bool :=
  match valueOf data s.name with
  | .null => true
  | .list items =>
    items.all fun item => item.isMapping (fun _ => false) (isTypedRecord missing s.textKeys s.listKeys)
  | _ => false

/-- All fields of a description have the right types. -/
def isTypedDescription (data : Dict) : Bool :=
  ["preamble", "postamble"].all (fun key => (valueOf data key).isTextual) &&
    (valueOf data "machine").isMapping missing
      (isTypedRecord missing ["id", "description", "autogenerated_message"] ["modes"]) &&
    Section.all.all fun s => s.isTyped missing data

/-- The value of a file describes a machine, as far as types go. -/
def isTyped (v : Value) : Bool := v.isMapping missing (isTypedDescription missing)

end

/-! ## What can be read -/

theorem isTextual_of_read {r : Record} {key : String} {found : Option String} (h : r.text? key = .ok found) :
    (valueOf r.fields key).isTextual = true := by
  have hvalue : (valueOf r.fields key).asText? = some found := (Record.text?_eq_ok_iff r key found).mp h
  revert hvalue
  cases valueOf r.fields key with
  | null | text | int | float | undefined => exact fun _ => rfl
  | _ =>
    intro hvalue
    cases hvalue

theorem isListing_of_read {r : Record} {key : String} {found : List String} (h : r.texts key = .ok found) :
    (valueOf r.fields key).isListing = true := by
  have hvalue : (valueOf r.fields key).Lists found := (Record.texts_eq_ok_iff r key found).mp h
  generalize valueOf r.fields key = v at hvalue
  cases hvalue with
  | nothing => rfl
  | alone => rfl
  | several => simp [Value.ofTexts, Value.isListing, Value.isText]

theorem isMapping_of_maps {v : Value} {dict : Dict} {p : Dict → Bool} (h : v.Maps dict) (hp : p dict = true) :
    v.isMapping Value.isFalsy p = true := by
  unfold Value.isMapping
  split
  case h_1 entries => rwa [(Value.maps_map_iff entries dict).mp h] at hp
  case h_2 hnot => rw [Value.isFalsy, ((Value.maps_iff_of_not_map hnot dict).mp h).1, Bool.not_false]

theorem isTypedRecord_of_read {r : Record} {textKeys listKeys ownKeys : List String} {attrs : Dict}
    (htexts : ∀ key ∈ textKeys, ∃ found, r.text? key = .ok found)
    (hlists : ∀ key ∈ listKeys, ∃ found, r.texts key = .ok found) (hattrs : r.attrs ownKeys = .ok attrs) :
    isTypedRecord Value.isFalsy textKeys listKeys r.fields = true := by
  obtain ⟨explicit, hmaps, _⟩ := (Record.attrs_eq_ok_iff r ownKeys attrs).mp hattrs
  simp only [isTypedRecord, Bool.and_eq_true, List.all_eq_true]
  refine ⟨⟨fun key hkey => ?_, fun key hkey => ?_⟩, isMapping_of_maps hmaps rfl⟩
  · obtain ⟨found, hfound⟩ := htexts key hkey
    exact isTextual_of_read hfound
  · obtain ⟨found, hfound⟩ := hlists key hkey
    exact isListing_of_read hfound

/-- A record that describes an entity has fields of the right types. -/
theorem isTyped_of_describes {s : Section} {r : Record} {e : Entity} (h : s.Describes r e) :
    isTypedRecord Value.isFalsy s.textKeys s.listKeys r.fields = true := by
  obtain ⟨⟨hdescription, henumId, hclassIds, hattrs, -, -⟩, htells⟩ := h
  generalize e.id = id, e.detail = d at htells
  refine isTypedRecord_of_read ?_ ?_ hattrs
  · cases htells with
    | ofClass hid | ofState hid => simp [Section.textKeys, hid, hdescription, henumId]
    | ofAction hid hcode => simp [Section.textKeys, hid, hdescription, henumId, hcode]
    | ofEvent hid htype => simp [Section.textKeys, hid, hdescription, henumId, htype]
    | ofArc hfrom hto hevent hguard hid hhandlers =>
      simp [Section.textKeys, hid, hdescription, henumId, hfrom, hto, hevent, hguard]
  · cases htells with
    | ofClass | ofAction | ofEvent => simp [Section.listKeys, hclassIds]
    | ofState hid hentry hexit => simp [Section.listKeys, hclassIds, hentry, hexit]
    | ofArc hfrom hto hevent hguard hid hhandlers => simp [Section.listKeys, hclassIds, hhandlers]

theorem isTyped_of_entitiesIn {data : Dict} {source : String} (sections : List Section) {es : List Entity}
    (h : entitiesIn data source sections = .ok es) : ∀ s ∈ sections, s.isTyped Value.isFalsy data = true := by
  induction sections generalizing es with
  | nil => exact List.forall_mem_nil _
  | cons s rest ih =>
    rw [entitiesIn] at h
    simp only [bind_eq_ok_iff] at h
    obtain ⟨items, hitems, fs, hfs, gs, hgs, -⟩ := h
    refine List.forall_mem_cons.mpr ⟨?_, ih hgs⟩
    have haccepted := (entitiesFrom_eq_ok_iff s source 0 items fs).mp hfs
    rw [sectionItems, ← valueOf] at hitems
    rw [Section.isTyped]
    revert hitems
    cases valueOf data s.name with
    | null => exact fun _ => rfl
    | list xs =>
      intro hitems
      obtain rfl := Except.ok.inj hitems
      simp only [List.all_eq_true]
      intro item hitem
      obtain ⟨e, -, fields, rfl, hdescribes⟩ := exists_of_mem_of_forall₂ haccepted hitem
      exact isTyped_of_describes (hdescribes source)
    | _ =>
      intro hitems
      cases hitems

/-- A description that can be read has fields of the right types. -/
theorem isTyped_of_reads {data : Dict} {source : String} {head : Head} {es : List Entity}
    (h : Reads data source head es) : isTypedDescription Value.isFalsy data = true := by
  obtain ⟨own, hown, hhead⟩ := (readHead_eq_ok_iff data source head).mp h.head_eq
  obtain ⟨entries, hmaps, rfl⟩ := (header_eq_ok_iff data source own).mp hown
  simp only [isTypedDescription, Bool.and_eq_true, List.all_eq_true]
  refine ⟨⟨?_, isMapping_of_maps hmaps ?_⟩, isTyped_of_entitiesIn Section.all h.entities_eq⟩
  · simp only [List.forall_mem_cons]
    exact ⟨isTextual_of_read hhead.preamble, isTextual_of_read hhead.postamble, List.forall_mem_nil _⟩
  · refine isTypedRecord_of_read ?_ ?_ hhead.attrs
    · simp [hhead.id, hhead.description, hhead.ownMessage]
    · simp [hhead.modes]

/-! ## What is refused -/

/-- A file makes no machine if anything in it has the wrong type, but for what counts as nothing where a mapping
belongs. -/
theorem refuses_of_not_isTyped (ws : Workspace) (path : String) (v : Value) (validate : Bool)
    (h : isTyped Value.isFalsy v = false) : ∃ fault, (loadValue ws path v validate).2 = .error fault := by
  rw [← Bool.not_eq_true] at h
  cases hloaded : (loadValue ws path v validate).2 with
  | error fault => exact ⟨fault, rfl⟩
  | ok m =>
    refine absurd ?_ h
    rw [loadValue] at hloaded
    split at hloaded
    case h_1 => cases hloaded
    case h_2 data hdata =>
      obtain ⟨head, es, hreads⟩ := reads_of_build ws hloaded
      exact isMapping_of_maps ((ofValue_eq_ok_iff path v data).mp hdata) (isTyped_of_reads hreads)

theorem refuses_of_not_isTyped_states :
    isTyped Value.isFalsy (.map [(.text "states", .int 3)]) = false ∧
      ∃ fault, (loadValue {} "m.yaml" (.map [(.text "states", .int 3)]) true).2 = .error fault := by
  have h : isTyped Value.isFalsy (.map [(.text "states", .int 3)]) = false := by decide +kernel
  exact ⟨h, refuses_of_not_isTyped {} "m.yaml" _ true h⟩

/-- What counts as nothing passes for a mapping, be it the file, the header, or the attributes of header or record. -/
theorem accepts_falsy : ∀ text ∈ ["[]", "machine: false", "machine: {attrs: []}", "states: [{id: a, attrs: 0}]"],
    ∃ v m, readValue "m.yaml" text = .ok v ∧ isTyped Value.isNull v = false ∧
      (loadValue {} "m.yaml" v true).2 = .ok m := by
  intro text htext
  have hchecked : ((readValue "m.yaml" text).toOption.any fun v =>
      !isTyped Value.isNull v && (loadValue {} "m.yaml" v true).2.toOption.isSome) = true := by
    revert text
    decide +kernel
  rw [Option.any_eq_true] at hchecked
  obtain ⟨v, hv, hboth⟩ := hchecked
  obtain ⟨htyped, hloaded⟩ := Bool.and_eq_true_iff.mp hboth
  obtain ⟨m, hm⟩ := Option.isSome_iff_exists.mp hloaded
  exact ⟨v, m, ok_of_toOption hv, (Bool.not_eq_true' _).mp htyped, ok_of_toOption hm⟩

theorem not_refuses_falsy_header :
    ¬ ∀ (ws : Workspace) (path text : String) (v : Value) (validate : Bool), readValue path text = .ok v →
      isTyped Value.isNull v = false → ∃ fault, (loadValue ws path v validate).2 = .error fault := by
  intro h
  obtain ⟨v, m, hv, htyped, hloaded⟩ := accepts_falsy "machine: false" (by simp)
  obtain ⟨fault, hrefused⟩ := h {} "m.yaml" "machine: false" v true hv htyped
  rw [hloaded] at hrefused
  cases hrefused

end Description

end StateMachine
