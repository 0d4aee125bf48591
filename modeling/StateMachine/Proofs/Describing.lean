import StateMachine.Proofs.Building
import StateMachine.Proofs.Making

/-!
# What descriptions say

A record that can be read says field by field what an entity is. A description that can be read says what the head of a
machine is and what its entities are, and to build it is to make a machine of these.
-/

namespace StateMachine

/-! ## Fields -/

namespace Value

/-- The text that a value is in a field for texts, where it may be one. -/
def asText? : Value → Option (Option String)
  | null => some none
  | text s => some (some s)
  | int n => some (some (int n).display)
  | float x => some (some (float x).display)
  | undefined n => some (some (undefined n).display)
  | _ => none

/-- The text that a value is in a list. -/
def member? : Value → Option String
  | text s => some s
  | _ => none

/-- A value lists texts in a field for lists of texts. -/
inductive Lists : Value → List String → Prop
  | nothing : Lists null []
  | alone (s : String) : Lists (text s) [s]
  | several (texts : List String) : Lists (ofTexts texts) texts

/-- A value has entries where a mapping is asked for. What counts as nothing has none. -/
inductive Maps : Value → Dict → Prop
  | mapping (dict : Dict) : Maps (map dict) dict
  | nothing (v : Value) (h : v.truthy = false) : Maps v []

theorem maps_iff_of_not_map {v : Value} (h : ∀ entries, v ≠ map entries) (dict : Dict) :
    v.Maps dict ↔ v.truthy = false ∧ dict = [] := by
  constructor
  · intro hmaps
    cases hmaps with
    | mapping => exact absurd rfl (h dict)
    | nothing _ hfalsy => exact ⟨hfalsy, rfl⟩
  · rintro ⟨hfalsy, rfl⟩
    exact .nothing v hfalsy

theorem maps_map_iff (entries dict : Dict) : (map entries).Maps dict ↔ dict = entries := by
  constructor
  · intro h
    generalize hv : map entries = v at h
    cases h with
    | mapping => exact (Value.map.inj hv).symm
    | nothing _ hfalsy =>
      subst hv
      rw [truthy, Bool.not_eq_false', List.isEmpty_iff] at hfalsy
      exact hfalsy.symm
  · rintro rfl
    exact .mapping dict

end Value

namespace Description

/-- The value of a field; one that is missing is null. -/
def valueOf (fields : Dict) (key : String) : Value := (Value.field? fields key).getD .null

theorem Record.text?_eq_ok_iff (r : Record) (key : String) (found : Option String) :
    r.text? key = .ok found ↔ (valueOf r.fields key).asText? = some found := by
  rw [Record.text?, Record.value, ← valueOf]
  cases valueOf r.fields key <;> simp [Value.asText?]

theorem length_filterMap_member?_iff (xs : List Value) (texts : List String) :
    (xs.filterMap Value.member?).length = xs.length ∧ xs.filterMap Value.member? = texts ↔ xs = texts.map .text := by
  constructor
  · rintro ⟨hlength, rfl⟩
    induction xs with
    | nil => rfl
    | cons x rest ih =>
      cases x with
      | text s =>
        simp only [List.filterMap_cons, Value.member?, List.length_cons, Nat.add_right_cancel_iff] at hlength
        simpa [Value.member?] using ih hlength
      | _ =>
        have hle := List.length_filterMap_le Value.member? rest
        simp only [List.filterMap_cons, Value.member?, List.length_cons] at hlength
        omega
  · rintro rfl
    rw [List.filterMap_map, List.length_map]
    have hall : texts.filterMap (Value.member? ∘ Value.text) = texts := List.filterMap_some
    rw [hall]
    exact ⟨rfl, rfl⟩

theorem Record.texts_eq_ok_iff (r : Record) (key : String) (found : List String) :
    r.texts key = .ok found ↔ (valueOf r.fields key).Lists found := by
  rw [Record.texts, Record.value, ← valueOf]
  cases valueOf r.fields key with
  | null => exact ⟨fun h => Except.ok.inj h ▸ .nothing, fun h => by cases h; rfl⟩
  | text s => exact ⟨fun h => Except.ok.inj h ▸ .alone s, fun h => by cases h; rfl⟩
  | list xs =>
    show (if (xs.filterMap Value.member?).length = xs.length then Except.ok (xs.filterMap Value.member?)
      else Except.error (r.wrongType key "list of strings" (.list xs))) = Except.ok found ↔ _
    have hlists : (Value.list xs).Lists found ↔ xs = found.map .text :=
      ⟨fun h => by cases h; rfl, fun h => h ▸ .several found⟩
    rw [hlists, ← length_filterMap_member?_iff]
    split
    case isTrue h => simp [h]
    case isFalse h => simp [h]
  | _ => exact iff_of_false (fun h => nomatch h) fun h => nomatch h

/-- The attributes of a record where these are its entries under `attrs`. -/
def Record.attrsWith (r : Record) (ownKeys : List String) (explicit : Dict) : Dict :=
  let extra := r.fields.filter fun (k, _) => !(commonKeys ++ ownKeys).any fun name => k == .text name
  entriesWithoutLines (explicit.foldl (fun acc (k, v) => Assoc.put k v acc) extra)

theorem Record.attrs_eq_ok_iff (r : Record) (ownKeys : List String) (attrs : Dict) : r.attrs ownKeys = .ok attrs ↔
    ∃ explicit, (valueOf r.fields "attrs").Maps explicit ∧ r.attrsWith ownKeys explicit = attrs := by
  rw [Record.attrs, Record.value, ← valueOf]
  generalize valueOf r.fields "attrs" = v
  dsimp only
  split
  case h_1 entries => simp [Value.maps_map_iff, Record.attrsWith, Except.map]
  case h_2 hnot =>
    simp only [Value.maps_iff_of_not_map hnot]
    split <;> simp [Record.attrsWith, Except.map, *]

theorem bind_eq_ok_iff {α β : Type} (x : Except Fault α) (f : α → Except Fault β) (b : β) :
    x >>= f = .ok b ↔ ∃ a, x = .ok a ∧ f a = .ok b := by
  cases x with
  | error fault => exact iff_of_false (fun h => nomatch h) fun ⟨_, h, _⟩ => nomatch h
  | ok a => exact ⟨fun h => ⟨a, rfl, h⟩, fun ⟨_, h, hb⟩ => Except.ok.inj h ▸ hb⟩

/-! ## Records -/

theorem Record.text_eq_ok_iff (r : Record) (key s : String) : r.text key = .ok s ↔ r.text? key = .ok (some s) := by
  rw [Record.text, bind_eq_ok_iff]
  constructor
  · rintro ⟨found, hfound, hs⟩
    cases found with
    | none => cases hs
    | some t => rw [hfound, Except.ok.inj hs]
  · exact fun h => ⟨some s, h, rfl⟩

/-- What the fields of every record say about an entity. -/
structure Record.Common (r : Record) (ownKeys : List String) (e : Entity) : Prop where
  description : r.text? "description" = .ok e.description
  enumId : r.text? "enum_id" = .ok e.enumId
  classIds : r.texts "classes" = .ok e.classIds
  attrs : r.attrs ownKeys = .ok e.attrs
  location : e.location = some r.location
  unowned : e.machine = none

/-- The fields that the records of a section define beyond those that all records define. -/
def Section.ownKeys : Section → List String
  | classes => []
  | actions => ["code"]
  | states => ["entry", "exit"]
  | events => ["type"]
  | arcs => ["from", "to", "event", "guard", "handlers"]

/-- What the fields of a record say about the id of an entity and about what it is. -/
inductive Section.Tells (r : Record) : Section → String → Detail → Prop
  | ofClass {id : String} (hid : r.text? "id" = .ok (some id)) : Tells r classes id .bundle
  | ofAction {id : String} {code : Option String} (hid : r.text? "id" = .ok (some id))
      (hcode : r.text? "code" = .ok code) : Tells r actions id (.action code)
  | ofState {id : String} {entry leave : List String} (hid : r.text? "id" = .ok (some id))
      (hentry : r.texts "entry" = .ok entry) (hexit : r.texts "exit" = .ok leave) :
      Tells r states id (.state entry leave none)
  | ofEvent {id : String} {type : Option String} (hid : r.text? "id" = .ok (some id))
      (htype : r.text? "type" = .ok type) : Tells r events id (.event (some (type.getD "")))
  | ofArc {fromId toId eventId : String} {guard own : Option String} {handlerIds : List String}
      (hfrom : r.text? "from" = .ok (some fromId)) (hto : r.text? "to" = .ok (some toId))
      (hevent : r.text? "event" = .ok (some eventId)) (hguard : r.text? "guard" = .ok guard)
      (hid : r.text? "id" = .ok own) (hhandlers : r.texts "handlers" = .ok handlerIds) :
      Tells r arcs (own.getD (arcId fromId eventId toId guard))
        (.arc { fromId := some fromId, toId := some toId, eventId := some eventId, guard, handlerIds })

/-- A record of a section says that an entity is what it is. -/
structure Section.Describes (s : Section) (r : Record) (e : Entity) : Prop where
  common : r.Common s.ownKeys e
  tells : s.Tells r e.id e.detail

theorem Record.Common.withDetail {r : Record} {ownKeys : List String} {e : Entity} (h : r.Common ownKeys e)
    (d : Detail) : r.Common ownKeys { e with detail := d } :=
  ⟨h.description, h.enumId, h.classIds, h.attrs, h.location, h.unowned⟩

theorem entity_some_eq_ok_iff (r : Record) (ownKeys : List String) (id : String) (e : Entity) :
    r.entity ownKeys (some id) = .ok e ↔ e.id = id ∧ r.Common ownKeys e ∧ e.detail = .plain := by
  unfold Record.entity
  simp only [bind_eq_ok_iff]
  constructor
  · rintro ⟨found, hfound, description, hdescription, enumId, henumId, classIds, hclassIds, attrs, hattrs, heq⟩
    obtain rfl := Except.ok.inj heq
    exact ⟨(Except.ok.inj hfound).symm, ⟨hdescription, henumId, hclassIds, hattrs, rfl, rfl⟩, rfl⟩
  · rintro ⟨rfl, hcommon, hdetail⟩
    refine ⟨_, rfl, _, hcommon.description, _, hcommon.enumId, _, hcommon.classIds, _, hcommon.attrs, ?_⟩
    rw [← hcommon.location, ← hcommon.unowned, ← hdetail]
    rfl

theorem entity_none_eq_ok_iff (r : Record) (ownKeys : List String) (e : Entity) :
    r.entity ownKeys none = .ok e ↔ r.text? "id" = .ok (some e.id) ∧ r.Common ownKeys e ∧ e.detail = .plain := by
  have hid : r.entity ownKeys none = (r.text "id").bind fun id => r.entity ownKeys (some id) := rfl
  rw [hid]
  refine (bind_eq_ok_iff _ _ _).trans ?_
  simp only [entity_some_eq_ok_iff, Record.text_eq_ok_iff]
  exact ⟨fun ⟨_, hfound, rfl, h⟩ => ⟨hfound, h⟩, fun ⟨hfound, h⟩ => ⟨_, hfound, rfl, h⟩⟩

theorem read_eq_ok_iff (s : Section) (r : Record) (e : Entity) : s.read r = .ok e ↔ s.Describes r e := by
  constructor
  · intro h
    cases s with
    | classes =>
      simp only [Section.read, readClass, bind_eq_ok_iff, entity_none_eq_ok_iff] at h
      obtain ⟨base, ⟨hid, hcommon, -⟩, heq⟩ := h
      obtain rfl := Except.ok.inj heq
      exact ⟨hcommon.withDetail _, .ofClass hid⟩
    | actions =>
      simp only [Section.read, readAction, bind_eq_ok_iff, entity_none_eq_ok_iff] at h
      obtain ⟨base, ⟨hid, hcommon, -⟩, code, hcode, heq⟩ := h
      obtain rfl := Except.ok.inj heq
      exact ⟨hcommon.withDetail _, .ofAction hid hcode⟩
    | states =>
      simp only [Section.read, readState, bind_eq_ok_iff, entity_none_eq_ok_iff] at h
      obtain ⟨base, ⟨hid, hcommon, -⟩, entry, hentry, leave, hexit, heq⟩ := h
      obtain rfl := Except.ok.inj heq
      exact ⟨hcommon.withDetail _, .ofState hid hentry hexit⟩
    | events =>
      simp only [Section.read, readEvent, bind_eq_ok_iff, entity_none_eq_ok_iff] at h
      obtain ⟨base, ⟨hid, hcommon, -⟩, type, htype, heq⟩ := h
      obtain rfl := Except.ok.inj heq
      exact ⟨hcommon.withDetail _, .ofEvent hid htype⟩
    | arcs =>
      simp only [Section.read, readArc, bind_eq_ok_iff, entity_some_eq_ok_iff, Record.text_eq_ok_iff] at h
      obtain ⟨fromId, hfrom, toId, hto, eventId, hevent, guard, hguard, own, hown, base, ⟨hid, hcommon, -⟩,
        handlerIds, hhandlers, heq⟩ := h
      obtain rfl := Except.ok.inj heq
      refine ⟨hcommon.withDetail _, ?_⟩
      dsimp only
      rw [hid]
      exact .ofArc hfrom hto hevent hguard hown hhandlers
  · rintro ⟨hcommon, htells⟩
    obtain ⟨id, description, location, enumId, classIds, attrs, machine, detail⟩ := e
    let base : Entity := ⟨id, description, location, enumId, classIds, attrs, machine, .plain⟩
    have hplain := hcommon.withDetail .plain
    cases htells with
    | ofClass hid =>
      simp only [Section.read, readClass, bind_eq_ok_iff, entity_none_eq_ok_iff]
      exact ⟨base, ⟨hid, hplain, rfl⟩, rfl⟩
    | ofAction hid hcode =>
      simp only [Section.read, readAction, bind_eq_ok_iff, entity_none_eq_ok_iff]
      exact ⟨base, ⟨hid, hplain, rfl⟩, _, hcode, rfl⟩
    | ofState hid hentry hexit =>
      simp only [Section.read, readState, bind_eq_ok_iff, entity_none_eq_ok_iff]
      exact ⟨base, ⟨hid, hplain, rfl⟩, _, hentry, _, hexit, rfl⟩
    | ofEvent hid htype =>
      simp only [Section.read, readEvent, bind_eq_ok_iff, entity_none_eq_ok_iff]
      exact ⟨base, ⟨hid, hplain, rfl⟩, _, htype, rfl⟩
    | ofArc hfrom hto hevent hguard hid hhandlers =>
      simp only [Section.read, readArc, bind_eq_ok_iff, entity_some_eq_ok_iff, Record.text_eq_ok_iff]
      exact ⟨_, hfrom, _, hto, _, hevent, _, hguard, _, hid, base, ⟨rfl, hplain, rfl⟩, _, hhandlers, rfl⟩

/-! ## Records that say the same -/

/-- What one record says in its fields, another one says too. This leaves out the line, which is no field. -/
structure Record.Echoes (r r' : Record) : Prop where
  text? : ∀ key ≠ Yaml.lineKey, ∀ found, r.text? key = .ok found → r'.text? key = .ok found
  texts : ∀ key ≠ Yaml.lineKey, ∀ found, r.texts key = .ok found → r'.texts key = .ok found

section
variable {r r' : Record}

theorem Section.Tells.echo {s : Section} {id : String} {d : Detail} (h : s.Tells r id d) (hecho : r.Echoes r') :
    s.Tells r' id d := by
  cases h with
  | ofClass hid => exact .ofClass (hecho.text? _ (by decide) _ hid)
  | ofAction hid hcode => exact .ofAction (hecho.text? _ (by decide) _ hid) (hecho.text? _ (by decide) _ hcode)
  | ofState hid hentry hexit =>
    exact .ofState (hecho.text? _ (by decide) _ hid) (hecho.texts _ (by decide) _ hentry)
      (hecho.texts _ (by decide) _ hexit)
  | ofEvent hid htype => exact .ofEvent (hecho.text? _ (by decide) _ hid) (hecho.text? _ (by decide) _ htype)
  | ofArc hfrom hto hevent hguard hid hhandlers =>
    exact .ofArc (hecho.text? _ (by decide) _ hfrom) (hecho.text? _ (by decide) _ hto)
      (hecho.text? _ (by decide) _ hevent) (hecho.text? _ (by decide) _ hguard) (hecho.text? _ (by decide) _ hid)
      (hecho.texts _ (by decide) _ hhandlers)

theorem Section.Describes.echo {s : Section} {e : Entity} (h : s.Describes r e) (hecho : r.Echoes r') {attrs : Dict}
    (hattrs : r'.attrs s.ownKeys = .ok attrs) : s.Describes r' { e with location := some r'.location, attrs } where
  common :=
    { description := hecho.text? _ (by decide) _ h.common.description
      enumId := hecho.text? _ (by decide) _ h.common.enumId
      classIds := hecho.texts _ (by decide) _ h.common.classIds
      attrs := hattrs
      location := rfl
      unowned := h.common.unowned }
  tells := h.tells.echo hecho

end

/-! ## Heads -/

/-- What the header of a description and the description itself say about the head of a machine. -/
structure DescribesHead (own root : Record) (head : Head) : Prop where
  id : own.text? "id" = .ok head.id
  description : own.text? "description" = .ok head.description
  preamble : root.text? "preamble" = .ok head.preamble
  postamble : root.text? "postamble" = .ok head.postamble
  modes : own.texts "modes" = .ok head.modes
  ownMessage : own.text? "autogenerated_message" = .ok head.ownMessage
  attrs : own.attrs ["autogenerated_message", "modes"] = .ok head.attrs
  location : head.location = some own.location

theorem header_eq_ok_iff (data : Dict) (source : String) (own : Record) : header data source = .ok own ↔
    ∃ entries, (valueOf data "machine").Maps entries ∧ own = ⟨entries, s!"{source}: machine", source⟩ := by
  rw [header, ← valueOf]
  generalize valueOf data "machine" = v
  split
  case h_1 entries => simp [Value.maps_map_iff, eq_comm]
  case h_2 hnot =>
    simp only [Value.maps_iff_of_not_map hnot]
    split
    case isTrue h => simp [h]
    case isFalse h => simp [h, eq_comm]

theorem readHead_eq_ok_iff (data : Dict) (source : String) (head : Head) : readHead data source = .ok head ↔
    ∃ own, header data source = .ok own ∧ DescribesHead own ⟨data, source, source⟩ head := by
  unfold readHead
  simp only [bind_eq_ok_iff]
  constructor
  · rintro ⟨own, hown, id, hid, description, hdescription, preamble, hpreamble, postamble, hpostamble, modes, hmodes,
      ownMessage, hownMessage, attrs, hattrs, heq⟩
    obtain rfl := Except.ok.inj heq
    exact ⟨own, hown, ⟨hid, hdescription, hpreamble, hpostamble, hmodes, hownMessage, hattrs, rfl⟩⟩
  · rintro ⟨own, hown, h⟩
    refine ⟨own, hown, _, h.id, _, h.description, _, h.preamble, _, h.postamble, _, h.modes, _, h.ownMessage, _, h.attrs,
      ?_⟩
    rw [← h.location]
    rfl

theorem DescribesHead.echo {own own' root root' : Record} {head : Head} (h : DescribesHead own root head)
    (hown : own.Echoes own') (hroot : root.Echoes root') {attrs : Dict}
    (hattrs : own'.attrs ["autogenerated_message", "modes"] = .ok attrs) :
    DescribesHead own' root' { head with location := some own'.location, attrs } where
  id := hown.text? _ (by decide) _ h.id
  description := hown.text? _ (by decide) _ h.description
  preamble := hroot.text? _ (by decide) _ h.preamble
  postamble := hroot.text? _ (by decide) _ h.postamble
  modes := hown.texts _ (by decide) _ h.modes
  ownMessage := hown.text? _ (by decide) _ h.ownMessage
  attrs := hattrs
  location := rfl

/-! ## Sections -/

/-- The entities that the records of a section describe. -/
def entitiesFrom (s : Section) (source : String) : Nat → List Value → Except Fault (List Entity)
  | _, [] => .ok []
  | index, v :: rest => do
    let e ← (recordAt s source index v).bind s.read
    let es ← entitiesFrom s source (index + 1) rest
    return e :: es

/-- The entities that the records of some sections describe. -/
def entitiesIn (data : Dict) (source : String) : List Section → Except Fault (List Entity)
  | [] => .ok []
  | s :: rest => do
    let items ← sectionItems data s source
    let es ← entitiesFrom s source 0 items
    let fs ← entitiesIn data source rest
    return es ++ fs

/-- A value is a record of a section and describes an entity, wherever in the section it stands. -/
def Section.Accepts (s : Section) (source : String) (v : Value) (e : Entity) : Prop :=
  ∃ fields, v = .map fields ∧ ∀ place, s.Describes ⟨fields, place, source⟩ e

theorem Section.Describes.elsewhere {s : Section} {fields : Dict} {place source : String} {e : Entity}
    (h : s.Describes ⟨fields, place, source⟩ e) (place' : String) : s.Describes ⟨fields, place', source⟩ e := by
  have hecho : Record.Echoes ⟨fields, place, source⟩ ⟨fields, place', source⟩ := by
    constructor
    · intro key _ found hfound
      rw [Record.text?_eq_ok_iff] at hfound ⊢
      exact hfound
    · intro key _ found hfound
      rw [Record.texts_eq_ok_iff] at hfound ⊢
      exact hfound
  have hattrs : Record.attrs ⟨fields, place', source⟩ s.ownKeys = .ok e.attrs := by
    have hattrs := h.common.attrs
    rw [Record.attrs_eq_ok_iff] at hattrs ⊢
    exact hattrs
  have hagain := h.echo hecho hattrs
  have hlocation : some (Record.location ⟨fields, place', source⟩) = e.location := h.common.location.symm
  rwa [hlocation] at hagain

theorem recordAt_bind_read_eq_ok_iff (s : Section) (source : String) (index : Nat) (v : Value) (e : Entity) :
    (recordAt s source index v).bind s.read = .ok e ↔ s.Accepts source v e := by
  unfold recordAt
  dsimp only
  split
  case h_1 fields =>
    refine (read_eq_ok_iff s _ e).trans ⟨fun h => ⟨fields, rfl, h.elsewhere⟩, ?_⟩
    rintro ⟨_, hfields, h⟩
    exact Value.map.inj hfields ▸ h _
  case h_2 hnot =>
    refine iff_of_false ?_ ?_
    · intro h
      cases h
    · rintro ⟨fields, hfields, _⟩
      exact hnot fields hfields

theorem entitiesFrom_eq_ok_iff (s : Section) (source : String) (index : Nat) (items : List Value) (es : List Entity) :
    entitiesFrom s source index items = .ok es ↔ List.Forall₂ (s.Accepts source) items es := by
  induction items generalizing index es with
  | nil => exact ⟨fun h => Except.ok.inj h ▸ .nil, fun h => by cases h; rfl⟩
  | cons v rest ih =>
    rw [entitiesFrom]
    simp only [bind_eq_ok_iff, recordAt_bind_read_eq_ok_iff, ih, List.forall₂_cons_left_iff]
    constructor
    · rintro ⟨e, he, fs, hfs, heq⟩
      exact ⟨e, fs, he, hfs, (Except.ok.inj heq).symm⟩
    · rintro ⟨e, fs, he, hfs, rfl⟩
      exact ⟨e, he, fs, hfs, rfl⟩

theorem exists_of_mem_of_forall₂ {α β : Type} {R : α → β → Prop} {xs : List α} {ys : List β} (h : List.Forall₂ R xs ys)
    {x : α} (hx : x ∈ xs) : ∃ y ∈ ys, R x y := by
  induction h with
  | nil => cases hx
  | cons hfirst _ ih =>
    rcases List.mem_cons.mp hx with rfl | hx
    · exact ⟨_, List.mem_cons_self, hfirst⟩
    · obtain ⟨y, hy, hrest⟩ := ih hx
      exact ⟨y, List.mem_cons_of_mem _ hy, hrest⟩

/-! ## Building -/

theorem ofValue_eq_ok_iff (path : String) (v : Value) (data : Dict) : ofValue path v = .ok data ↔ v.Maps data := by
  unfold ofValue
  split
  case h_1 entries => simp [Value.maps_map_iff, eq_comm]
  case h_2 hnot =>
    rw [Value.maps_iff_of_not_map hnot]
    split
    case isTrue h => simp [h]
    case isFalse h => simp [h, eq_comm]

/-- A description can be read as the head and the entities of a machine. -/
structure Reads (data : Dict) (source : String) (head : Head) (es : List Entity) : Prop where
  head_eq : readHead data source = .ok head
  entities_eq : entitiesIn data source Section.all = .ok es

section
variable (ws : Workspace) (m : MachineRef) (s : Section) (data : Dict) (source : String)

theorem addRecords_of_read (index : Nat) (items : List Value) (es : List Entity)
    (h : entitiesFrom s source index items = .ok es) : addRecords ws m s source index items = ws.addEach m es := by
  induction items generalizing ws index es with
  | nil => rw [← Except.ok.inj h, addRecords, Workspace.addEach]
  | cons v rest ih =>
    rw [entitiesFrom] at h
    simp only [bind_eq_ok_iff] at h
    obtain ⟨e, he, fs, hfs, heq⟩ := h
    obtain rfl := Except.ok.inj heq
    rw [addRecords, he, Workspace.addEach]
    dsimp only
    rcases (ws.newEntity e).2.add m [.entity (ws.newEntity e).1] with ⟨filled, fault | _⟩
    · rfl
    · exact ih filled (index + 1) fs hfs

theorem read_of_addRecords (index : Nat) (items : List Value) (h : (addRecords ws m s source index items).2 = .ok ()) :
    ∃ es, entitiesFrom s source index items = .ok es := by
  induction items generalizing ws index with
  | nil => exact ⟨[], rfl⟩
  | cons v rest ih =>
    rw [addRecords] at h
    split at h
    case h_1 => cases h
    case h_2 e he =>
      dsimp only at h
      split at h
      case h_1 => cases h
      case h_2 filled _ =>
        obtain ⟨es, hes⟩ := ih filled (index + 1) h
        refine ⟨e :: es, ?_⟩
        rw [entitiesFrom, he, hes]
        rfl

theorem addSections_of_read (sections : List Section) (es : List Entity) (h : entitiesIn data source sections = .ok es) :
    addSections ws m data source sections = ws.addEach m es := by
  induction sections generalizing ws es with
  | nil => rw [← Except.ok.inj h, addSections, Workspace.addEach]
  | cons s rest ih =>
    rw [entitiesIn] at h
    simp only [bind_eq_ok_iff] at h
    obtain ⟨items, hitems, fs, hfs, gs, hgs, heq⟩ := h
    obtain rfl := Except.ok.inj heq
    rw [addSections, hitems, Workspace.addEach_append]
    dsimp only
    rw [addRecords_of_read ws m s source 0 items fs hfs]
    rcases ws.addEach m fs with ⟨filled, fault | _⟩
    · rfl
    · exact ih filled gs hgs

theorem read_of_addSections (sections : List Section) (h : (addSections ws m data source sections).2 = .ok ()) :
    ∃ es, entitiesIn data source sections = .ok es := by
  induction sections generalizing ws with
  | nil => exact ⟨[], rfl⟩
  | cons s rest ih =>
    rw [addSections] at h
    split at h
    case h_1 => cases h
    case h_2 items hitems =>
      split at h
      case h_1 => cases h
      case h_2 filled hfilled =>
        obtain ⟨es, hes⟩ := read_of_addRecords ws m s source 0 items (congrArg Prod.snd hfilled)
        obtain ⟨fs, hfs⟩ := ih filled h
        refine ⟨es ++ fs, ?_⟩
        rw [entitiesIn, hitems]
        simp only [bind_eq_ok_iff]
        exact ⟨items, rfl, es, hes, fs, hfs, rfl⟩

end

section
variable (ws : Workspace) {data : Dict} {source : String} {head : Head} {es : List Entity}

theorem build_of_reads (h : Reads data source head es) :
    build ws data source false = ws.constructEach head es := by
  rw [build, h.head_eq, Workspace.constructEach]
  dsimp only
  rcases ws.newMachine head with ⟨founded, fault | m⟩
  · rfl
  · dsimp only
    rw [addSections_of_read founded m data source Section.all es h.entities_eq]
    rcases founded.addEach m es with ⟨filled, fault | _⟩ <;> rfl

/-- To build a description that can be read is to make a machine of what it says. -/
theorem endAlike_build (h : Reads data source head es) :
    Workspace.EndAlike (build ws data source false) (ws.construct head es) :=
  build_of_reads ws h ▸ ws.endAlike_constructEach head es

/-- What is built can be read. -/
theorem reads_of_build {validate : Bool} {m : MachineRef} (h : (build ws data source validate).2 = .ok m) :
    ∃ head es, Reads data source head es := by
  rw [build] at h
  split at h
  case h_1 => cases h
  case h_2 head hhead =>
    split at h
    case h_1 => cases h
    case h_2 founded m' _ =>
      split at h
      case h_1 => cases h
      case h_2 filled hfilled =>
        obtain ⟨es, hes⟩ := read_of_addSections founded m' data source Section.all (congrArg Prod.snd hfilled)
        exact ⟨head, es, hhead, hes⟩

/-- A machine that must be valid is built first and checked then. -/
theorem build_true : build ws data source true = match build ws data source false with
    | (built, .error fault) => (built, .error fault)
    | (built, .ok m) =>
      match built.assertValid m with
      | (checked, .error fault) => (checked, .error fault)
      | (checked, .ok ()) => (checked, .ok m) := by
  unfold build
  rcases readHead data source with fault | head
  · rfl
  · dsimp only
    rcases ws.newMachine head with ⟨founded, fault | m⟩
    · rfl
    · dsimp only
      rcases addSections founded m data source Section.all with ⟨filled, fault | _⟩ <;> rfl

/-- A machine that must be valid is built if it is built otherwise and is valid. -/
theorem build_ok_iff (validate : Bool) (m : MachineRef) : (build ws data source validate).2 = .ok m ↔
    (build ws data source false).2 = .ok m ∧
      (validate = true → ((build ws data source false).1.check m).1.isValid = true) := by
  cases validate with
  | false => simp
  | true =>
    rw [build_true]
    rcases build ws data source false with ⟨built, fault | m'⟩
    · exact iff_of_false (fun h => nomatch h) fun h => nomatch h.1
    · have hvalid := built.assertValid_ok_iff m'
      dsimp only
      rcases hchecked : built.assertValid m' with ⟨checked, fault | _⟩
      · refine iff_of_false (fun h => nomatch h) fun ⟨hm, h⟩ => ?_
        obtain rfl := Except.ok.inj hm
        have hfine := hvalid.mpr (h rfl)
        rw [hchecked] at hfine
        cases hfine
      · have hfine := hvalid.mp (congrArg Prod.snd hchecked)
        exact ⟨fun hm => ⟨hm, fun _ => Except.ok.inj hm ▸ hfine⟩, fun h => h.1⟩

/-- That a machine must be valid changes nothing but numbers, warnings and the journal. -/
theorem bare_build (validate : Bool) :
    (build ws data source validate).1.bare = (build ws data source false).1.bare := by
  cases validate with
  | false => rfl
  | true =>
    rw [build_true]
    rcases build ws data source false with ⟨built, fault | m⟩
    · rfl
    · have hbare := built.bare_assertValid m
      dsimp only
      rcases hchecked : built.assertValid m with ⟨checked, fault | _⟩ <;>
      · rw [hchecked] at hbare
        exact hbare

end

end Description

end StateMachine
