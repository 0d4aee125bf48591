import StateMachine.Proofs.Describing
import StateMachine.Proofs.Lining

/-!
# Machines spelled out

The parts of a machine can be spelled out in a description, field by field. The attributes stand together in a field of
their own, or beside the other fields where their names are free. To build such a description is to make a machine of the
parts.
-/

namespace StateMachine

namespace Description

/-! ## Spelling -/

/-- A field for a text, if there is one. -/
def textEntry (key : String) (s : Option String) : Dict := s.toList.map fun s => (.text key, .text s)

/-- A field for a list of texts. -/
def listEntry (key : String) (texts : List String) : Dict := [(.text key, .ofTexts texts)]

/-- The fields for what an entity is. -/
def contentEntries : Detail → Dict
  | .plain | .bundle => []
  | .action code => textEntry "code" code
  | .state entry leave _ => listEntry "entry" entry ++ listEntry "exit" leave
  | .event type => textEntry "type" type
  | .arc t => textEntry "from" t.fromId ++ textEntry "to" t.toId ++ textEntry "event" t.eventId ++
      textEntry "guard" t.guard ++ listEntry "handlers" t.handlerIds

/-- The fields of an entity, but for its attributes. -/
def entityEntries (e : Entity) : Dict :=
  textEntry "id" (some e.id) ++ textEntry "description" e.description ++ textEntry "enum_id" e.enumId ++
    listEntry "classes" e.classIds ++ contentEntries e.detail

/-- The fields in the header of a description, but for the attributes. -/
def headEntries (head : Head) : Dict :=
  textEntry "id" head.id ++ textEntry "description" head.description ++
    textEntry "autogenerated_message" head.ownMessage ++ listEntry "modes" head.modes

/-- A key that a record defines. -/
def Reserved (ownKeys : List String) (key : Value) : Prop := ∃ name ∈ commonKeys ++ ownKeys, key = .text name

/-- A mapping has some fields and spells attributes out, in any order. Each attribute is under `attrs`, or it is an entry
of its own if its name is not reserved. -/
inductive Spells (given : Dict) (ownKeys : List String) (attrs fields : Dict) : Prop
  | beside (hfree : ∀ entry ∈ attrs, ¬ Reserved ownKeys entry.1) (hfields : fields.Perm (given ++ attrs))
  | within (inside extra : Dict) (hattrs : attrs.Perm (extra ++ inside))
      (hfree : ∀ entry ∈ extra, ¬ Reserved ownKeys entry.1)
      (hfields : fields.Perm (given ++ (.text "attrs", .map inside) :: extra))

/-- Attributes as they may be: no two names are equal, and no mapping has a line at any depth. -/
structure AreAttrs (attrs : Dict) : Prop where
  distinct : attrs.Pairwise fun a b => (a.1 == b.1) = false ∧ (b.1 == a.1) = false
  unlined : (Value.map attrs).anyPart Value.keysLine = false

/-! ## Looking fields up -/

/-- The entries under a key. -/
def under (key : String) (fields : Dict) : Dict := fields.filter fun entry => entry.1 == .text key

theorem valueOf_eq_head? (key : String) (fields : Dict) :
    valueOf fields key = ((under key fields).head?.map (·.2)).getD .null := by
  rw [valueOf, Value.field?, under]
  congr 1
  induction fields with
  | nil => rfl
  | cons entry rest ih =>
    obtain ⟨k, v⟩ := entry
    by_cases hk : k = .text key
    · rw [List.lookup_cons, (Value.text_beq_iff key k).mpr hk, List.filter_cons,
        if_pos ((Value.beq_text_iff k key).mpr hk)]
      rfl
    · have hsame : ¬ (Value.text key == k) = true := fun h => hk ((Value.text_beq_iff key k).mp h)
      rw [List.lookup_cons, Bool.eq_false_iff.mpr hsame, List.filter_cons,
        if_neg fun h => hk ((Value.beq_text_iff k key).mp h)]
      exact ih

@[simp]
theorem under_nil (key : String) : under key [] = [] := rfl

@[simp]
theorem under_cons_text (key other : String) (v : Value) (rest : Dict) :
    under key ((.text other, v) :: rest) = if other = key then (.text other, v) :: under key rest else under key rest := by
  by_cases h : other = key <;> simp [under, h]

@[simp]
theorem under_append (key : String) (fields others : Dict) :
    under key (fields ++ others) = under key fields ++ under key others := List.filter_append _ _

@[simp]
theorem under_textEntry (key other : String) (s : Option String) :
    under key (textEntry other s) = if other = key then textEntry other s else [] := by
  cases s with
  | none => simp [textEntry, under]
  | some s => by_cases h : other = key <;> simp [textEntry, under, h]

@[simp]
theorem under_listEntry (key other : String) (texts : List String) :
    under key (listEntry other texts) = if other = key then listEntry other texts else [] := by
  by_cases h : other = key <;> simp [listEntry, under, h]

theorem under_eq_of_perm {key : String} {fields others : Dict} (h : fields.Perm others)
    (hone : (under key others).length ≤ 1) : under key fields = under key others := by
  have hperm : (under key fields).Perm (under key others) := h.filter _
  match hothers : under key others, hone with
  | [], _ => rwa [hothers, List.perm_nil] at hperm
  | [entry], _ => rwa [hothers, List.perm_singleton] at hperm

theorem under_eq_nil {ownKeys : List String} {key : String} (hkey : key ∈ commonKeys ++ ownKeys) {extra : Dict}
    (hfree : ∀ entry ∈ extra, ¬ Reserved ownKeys entry.1) : under key extra = [] := by
  rw [under, List.filter_eq_nil_iff]
  intro entry he
  rw [Value.beq_text_iff]
  exact fun heq => hfree entry he ⟨key, hkey, heq⟩

section
variable {given attrs fields : Dict} {ownKeys : List String}

/-- A field that a record defines is spelled out as it is given. -/
theorem Spells.under_eq (h : Spells given ownKeys attrs fields) {key : String} (hkey : key ∈ commonKeys ++ ownKeys)
    (hne : key ≠ "attrs") (hone : (under key given).length ≤ 1) : under key fields = under key given := by
  cases h with
  | beside hfree hfields =>
    have hgiven : under key (given ++ attrs) = under key given := by
      rw [under_append, under_eq_nil hkey hfree, List.append_nil]
    rw [under_eq_of_perm hfields (hgiven ▸ hone), hgiven]
  | within inside extra hattrs hfree hfields =>
    have hgiven : under key (given ++ (.text "attrs", .map inside) :: extra) = under key given := by
      rw [under_append, under, under, List.filter_cons, ← under, ← under, under_eq_nil hkey hfree]
      simp [hne.symm]
    rw [under_eq_of_perm hfields (hgiven ▸ hone), hgiven]

theorem text?_of_under {key : String} {s : Option String} (h : under key fields = textEntry key s)
    (place source : String) : Record.text? ⟨fields, place, source⟩ key = .ok s := by
  rw [Record.text?_eq_ok_iff, valueOf_eq_head?, h]
  cases s <;> rfl

theorem texts_of_under {key : String} {texts : List String} (h : under key fields = listEntry key texts)
    (place source : String) : Record.texts ⟨fields, place, source⟩ key = .ok texts := by
  rw [Record.texts_eq_ok_iff, valueOf_eq_head?, h]
  exact .several texts

theorem length_textEntry_le (key : String) (s : Option String) : (textEntry key s).length ≤ 1 := by
  cases s <;> simp [textEntry]

theorem Spells.text? (h : Spells given ownKeys attrs fields) {key : String} {s : Option String}
    (hkey : key ∈ commonKeys ++ ownKeys) (hne : key ≠ "attrs") (hgiven : under key given = textEntry key s)
    (place source : String) : Record.text? ⟨fields, place, source⟩ key = .ok s :=
  text?_of_under ((h.under_eq hkey hne (hgiven ▸ length_textEntry_le key s)).trans hgiven) place source

theorem Spells.texts (h : Spells given ownKeys attrs fields) {key : String} {texts : List String}
    (hkey : key ∈ commonKeys ++ ownKeys) (hne : key ≠ "attrs") (hgiven : under key given = listEntry key texts)
    (place source : String) : Record.texts ⟨fields, place, source⟩ key = .ok texts :=
  texts_of_under ((h.under_eq hkey hne (hgiven ▸ Nat.le_refl _)).trans hgiven) place source

/-- What is spelled out has no line. -/
theorem Spells.location (h : Spells given ownKeys attrs fields) (hgiven : under Yaml.lineKey given = [])
    (place source : String) : Record.location ⟨fields, place, source⟩ = ⟨source, .null⟩ := by
  have hunder : under Yaml.lineKey fields = under Yaml.lineKey given :=
    h.under_eq (List.mem_append_left _ (by decide)) (by decide) (hgiven ▸ Nat.zero_le 1)
  have hvalue := valueOf_eq_head? Yaml.lineKey fields
  rw [hunder, hgiven] at hvalue
  exact congrArg (Location.mk source) hvalue

end

/-! ## Attributes -/

/-- Entries with other keys are put at the end. -/
theorem foldl_put_of_distinct (entries acc : Dict) (h : (acc ++ entries).Pairwise fun a b => (a.1 == b.1) = false) :
    entries.foldl (fun acc (k, v) => Assoc.put k v acc) acc = acc ++ entries := by
  induction entries generalizing acc with
  | nil => exact (List.append_nil acc).symm
  | cons entry rest ih =>
    obtain ⟨k, v⟩ := entry
    have hfirst : ∀ entry ∈ acc, (entry.1 == k) = false := fun entry he =>
      (List.pairwise_append.mp h).2.2 entry he (k, v) List.mem_cons_self
    rw [List.append_cons] at h
    rw [List.foldl_cons]
    dsimp only
    rw [put_of_distinct k v acc hfirst, ih _ h, List.append_assoc]
    rfl

section
variable {attrs others : Dict}

theorem AreAttrs.of_perm (h : AreAttrs attrs) (hperm : attrs.Perm others) : AreAttrs others where
  distinct := (hperm.pairwise_iff fun ⟨hab, hba⟩ => ⟨hba, hab⟩).mp h.distinct
  unlined := by
    have hunlined := h.unlined
    simp only [Value.anyPart, Value.keysLine, Bool.or_eq_false_iff, Value.anyPartUnder_eq_false_iff,
      List.any_eq_false] at *
    exact ⟨fun entry he => hunlined.1 entry (hperm.mem_iff.mpr he),
      fun entry he => hunlined.2 entry (hperm.mem_iff.mpr he)⟩

theorem AreAttrs.entriesWithoutLines_eq (h : AreAttrs attrs) : entriesWithoutLines attrs = attrs := by
  have hunlined := h.unlined
  simp only [Value.anyPart, Value.keysLine, Bool.or_eq_false_iff] at hunlined
  exact entriesWithoutLines_eq_self attrs hunlined.1 hunlined.2

variable {given fields : Dict} {ownKeys : List String}

theorem filter_free (hgiven : ∀ entry ∈ given, Reserved ownKeys entry.1) (extra : Dict)
    (hfree : ∀ entry ∈ extra, ¬ Reserved ownKeys entry.1) :
    (given ++ extra).filter (fun (k, _) => !(commonKeys ++ ownKeys).any fun name => k == .text name) = extra := by
  have hreserved : ∀ k : Value, ((commonKeys ++ ownKeys).any fun name => k == .text name) = true ↔ Reserved ownKeys k :=
    fun k => by simp only [List.any_eq_true, Value.beq_text_iff, Reserved]
  rw [List.filter_append, List.filter_eq_nil_iff.mpr, List.filter_eq_self.mpr, List.nil_append]
  · intro entry he
    rw [Bool.not_eq_true', ← Bool.not_eq_true, hreserved]
    exact hfree entry he
  · intro entry he
    rw [Bool.not_eq_true', ← Bool.not_eq_true, hreserved, not_not]
    exact hgiven entry he

/-- The attributes that are read are those that are spelled out, in some order. -/
theorem Spells.attrs_perm (h : Spells given ownKeys attrs fields) (hattrs : AreAttrs attrs)
    (hgiven : ∀ entry ∈ given, Reserved ownKeys entry.1) (hnone : under "attrs" given = []) :
    ∃ found, found.Perm attrs ∧ ∀ place source, Record.attrs ⟨fields, place, source⟩ ownKeys = .ok found := by
  have hcommon : "attrs" ∈ commonKeys ++ ownKeys := List.mem_append_left _ (by decide)
  cases h with
  | beside hfree hfields =>
    have hvalue : valueOf fields "attrs" = .null := by
      have hunder : under "attrs" (given ++ attrs) = [] := by
        rw [under_append, hnone, under_eq_nil hcommon hfree, List.nil_append]
      rw [valueOf_eq_head?, under_eq_of_perm hfields (hunder ▸ Nat.zero_le 1), hunder]
      rfl
    let extra := fields.filter fun (k, _) => !(commonKeys ++ ownKeys).any fun name => k == .text name
    have hextra : extra.Perm attrs := filter_free hgiven attrs hfree ▸ hfields.filter _
    refine ⟨extra, hextra, fun place source => ?_⟩
    rw [Record.attrs_eq_ok_iff, hvalue]
    exact ⟨[], .nothing _ rfl, (hattrs.of_perm hextra.symm).entriesWithoutLines_eq⟩
  | within inside extra hparts hfree hfields =>
    have hvalue : valueOf fields "attrs" = .map inside := by
      have hunder : under "attrs" (given ++ (.text "attrs", .map inside) :: extra) = [(.text "attrs", .map inside)] := by
        rw [under_append, hnone, List.nil_append, under, List.filter_cons,
          if_pos ((Value.beq_text_iff _ _).mpr rfl), ← under, under_eq_nil hcommon hfree]
      rw [valueOf_eq_head?, under_eq_of_perm hfields (hunder ▸ Nat.le_refl 1), hunder]
      rfl
    let rest := fields.filter fun (k, _) => !(commonKeys ++ ownKeys).any fun name => k == .text name
    have hrest : rest.Perm extra := by
      have hgiven' : ∀ entry ∈ given ++ [(Value.text "attrs", Value.map inside)], Reserved ownKeys entry.1 := by
        intro entry he
        rcases List.mem_append.mp he with he | he
        · exact hgiven entry he
        · rw [List.mem_singleton.mp he]
          exact ⟨"attrs", hcommon, rfl⟩
      have hfiltered := hfields.filter fun (k, _) => !(commonKeys ++ ownKeys).any fun name => k == .text name
      rwa [List.append_cons, filter_free hgiven' extra hfree] at hfiltered
    have hall : (rest ++ inside).Perm attrs := (hrest.append_right inside).trans hparts.symm
    have hread := hattrs.of_perm hall.symm
    refine ⟨rest ++ inside, hall, fun place source => ?_⟩
    rw [Record.attrs_eq_ok_iff, hvalue]
    refine ⟨inside, .mapping inside, ?_⟩
    have hput := foldl_put_of_distinct inside rest (hread.distinct.imp And.left)
    exact (congrArg entriesWithoutLines hput).trans hread.entriesWithoutLines_eq

end

end Description

/-! ## Entities -/

/-- The entity of a description that says what another entity is: it differs in the place of declaration, which is in a
file but in no line, and in the order of its attributes. -/
structure Entity.Retells (source : String) (e' e : Entity) : Prop where
  outline_eq : e'.outline = e.outline
  location : e'.location = some ⟨source, .null⟩
  attrs : e'.attrs.Perm e.attrs

namespace Description

/-- What entities of a section are. A state is not numbered yet, an event has a type, and an arc has ends and an event. -/
inductive Section.Holds : Section → Detail → Prop
  | ofClass : Holds classes .bundle
  | ofAction (code : Option String) : Holds actions (.action code)
  | ofState (entry leave : List String) : Holds states (.state entry leave none)
  | ofEvent (type : String) : Holds events (.event (some type))
  | ofArc (fromId toId eventId : String) (guard : Option String) (handlerIds : List String) :
      Holds arcs (.arc { fromId := some fromId, toId := some toId, eventId := some eventId, guard, handlerIds })

/-- An entity can be spelled out in a section. It belongs to no machine yet. -/
structure Section.Admits (s : Section) (e : Entity) : Prop where
  kind : s.Holds e.detail
  attrs : AreAttrs e.attrs
  unowned : e.machine = none

theorem forall_mem_textEntry {p : Value × Value → Prop} {key : String} {s : Option String}
    (h : ∀ v, p (.text key, v)) : ∀ entry ∈ textEntry key s, p entry := by
  cases s with
  | none => exact fun _ he => nomatch he
  | some s => exact fun _ he => List.mem_singleton.mp he ▸ h _

theorem forall_mem_listEntry {p : Value × Value → Prop} {key : String} {texts : List String} (h : ∀ v, p (.text key, v)) :
    ∀ entry ∈ listEntry key texts, p entry :=
  fun _ he => List.mem_singleton.mp he ▸ h _

theorem reserved_entityEntries {s : Section} {e : Entity} (h : s.Holds e.detail) :
    ∀ entry ∈ entityEntries e, Reserved s.ownKeys entry.1 := by
  have hkey : ∀ key ∈ commonKeys ++ s.ownKeys, ∀ v : Value, Reserved s.ownKeys (Value.text key, v).1 :=
    fun key hkey v => ⟨key, hkey, rfl⟩
  simp only [entityEntries, List.forall_mem_append]
  refine ⟨⟨⟨⟨forall_mem_textEntry (hkey _ ?_), forall_mem_textEntry (hkey _ ?_)⟩, forall_mem_textEntry (hkey _ ?_)⟩,
    forall_mem_listEntry (hkey _ ?_)⟩, ?_⟩
  iterate 4 exact List.mem_append_left _ (by decide)
  generalize e.detail = d at h
  cases h with
  | ofClass => exact fun _ he => nomatch he
  | ofAction => exact forall_mem_textEntry (hkey _ (by decide))
  | ofState =>
    exact List.forall_mem_append.mpr
      ⟨forall_mem_listEntry (hkey _ (by decide)), forall_mem_listEntry (hkey _ (by decide))⟩
  | ofEvent => exact forall_mem_textEntry (hkey _ (by decide))
  | ofArc =>
    simp only [contentEntries, List.forall_mem_append]
    exact ⟨⟨⟨⟨forall_mem_textEntry (hkey _ (by decide)), forall_mem_textEntry (hkey _ (by decide))⟩,
      forall_mem_textEntry (hkey _ (by decide))⟩, forall_mem_textEntry (hkey _ (by decide))⟩,
      forall_mem_listEntry (hkey _ (by decide))⟩

theorem under_entityEntries_eq_nil {s : Section} {e : Entity} (h : s.Holds e.detail) (key : String)
    (hkey : key = "attrs" ∨ key = Yaml.lineKey) : under key (entityEntries e) = [] := by
  obtain ⟨id, description, location, enumId, classIds, attrs, machine, detail⟩ := e
  rcases hkey with rfl | rfl <;> cases h <;> simp [entityEntries, contentEntries, Yaml.lineKey]

section
variable {s : Section} {e : Entity} {fields : Dict} (hadmits : s.Admits e)
  (h : Spells (entityEntries e) s.ownKeys e.attrs fields)
include hadmits h

/-- A record that spells an entity out tells what it is. -/
theorem tells_of_spells (place source : String) : s.Tells ⟨fields, place, source⟩ e.id e.detail := by
  have hkind := hadmits.kind
  obtain ⟨id, description, location, enumId, classIds, attrs, machine, detail⟩ := e
  cases hkind with
  | ofClass =>
    refine .ofClass (h.text? (by decide) (by decide) ?_ _ _)
    simp [entityEntries, contentEntries]
  | ofAction code =>
    refine .ofAction (h.text? (by decide) (by decide) ?_ _ _) (h.text? (by decide) (by decide) ?_ _ _)
    all_goals simp [entityEntries, contentEntries]
  | ofState entry leave =>
    refine .ofState (h.text? (by decide) (by decide) ?_ _ _) (h.texts (by decide) (by decide) ?_ _ _)
      (h.texts (by decide) (by decide) ?_ _ _)
    all_goals simp [entityEntries, contentEntries]
  | ofEvent type =>
    have htype : Record.text? ⟨fields, place, source⟩ "type" = .ok (some type) :=
      h.text? (by decide) (by decide) (by simp [entityEntries, contentEntries]) _ _
    refine .ofEvent (h.text? (by decide) (by decide) ?_ _ _) htype
    simp [entityEntries, contentEntries]
  | ofArc fromId toId eventId guard handlerIds =>
    have hid : Record.text? ⟨fields, place, source⟩ "id" = .ok (some id) :=
      h.text? (by decide) (by decide) (by simp [entityEntries, contentEntries]) _ _
    refine .ofArc (h.text? (by decide) (by decide) ?_ _ _) (h.text? (by decide) (by decide) ?_ _ _)
      (h.text? (by decide) (by decide) ?_ _ _) (h.text? (by decide) (by decide) ?_ _ _) hid
      (h.texts (by decide) (by decide) ?_ _ _)
    all_goals simp [entityEntries, contentEntries]

/-- A record that spells an entity out describes it, but for the place of declaration and the order of attributes. -/
theorem accepts_of_spells (source : String) : ∃ e', e'.Retells source e ∧ s.Accepts source (.map fields) e' := by
  obtain ⟨found, hperm, hread⟩ := h.attrs_perm hadmits.attrs (reserved_entityEntries hadmits.kind)
    (under_entityEntries_eq_nil hadmits.kind "attrs" (Or.inl rfl))
  have hcontents : ∀ key ∈ ["description", "enum_id", "classes"], under key (contentEntries e.detail) = [] := by
    have hkind := hadmits.kind
    generalize e.detail = d at hkind
    cases hkind <;> simp [contentEntries]
  simp only [List.forall_mem_cons, List.not_mem_nil, false_imp_iff, implies_true, and_true] at hcontents
  obtain ⟨hdescription, henumId, hclassIds⟩ := hcontents
  refine ⟨{ e with location := some ⟨source, .null⟩, attrs := found }, ⟨rfl, rfl, hperm⟩, fields, rfl, fun place => ?_⟩
  have hcommon : ∀ key ∈ commonKeys, key ∈ commonKeys ++ s.ownKeys := fun _ hkey => List.mem_append_left _ hkey
  have hlocation := h.location (under_entityEntries_eq_nil hadmits.kind _ (Or.inr rfl)) place source
  refine ⟨⟨h.text? (hcommon _ (by decide)) (by decide) ?_ _ _, h.text? (hcommon _ (by decide)) (by decide) ?_ _ _,
    h.texts (hcommon _ (by decide)) (by decide) ?_ _ _, hread place source, congrArg some hlocation.symm,
    hadmits.unowned⟩, tells_of_spells hadmits h place source⟩
  all_goals simp [entityEntries, hdescription, henumId, hclassIds]

end

end Description

/-! ## Heads -/

/-- The head of a description that says what another head is: it differs in the place of declaration and in the order of
its attributes. -/
structure Head.Retells (source : String) (head' head : Head) : Prop where
  outline_eq : head'.outline = head.outline
  location : head'.location = some ⟨source, .null⟩
  attrs : head'.attrs.Perm head.attrs

namespace Description

/-- The fields that the header of a description defines beyond those that all records define. -/
def headKeys : List String := ["autogenerated_message", "modes"]

/-- A header and a description that spell a head out describe it, but for the place of declaration and the order of
attributes. -/
theorem describesHead_of_spells {head : Head} {fields data : Dict} (hattrs : AreAttrs head.attrs)
    (h : Spells (headEntries head) headKeys head.attrs fields)
    (hpreamble : under "preamble" data = textEntry "preamble" head.preamble)
    (hpostamble : under "postamble" data = textEntry "postamble" head.postamble) (source place : String) :
    ∃ head', head'.Retells source head ∧ DescribesHead ⟨fields, place, source⟩ ⟨data, source, source⟩ head' := by
  have hreserved : ∀ entry ∈ headEntries head, Reserved headKeys entry.1 := by
    have hkey : ∀ key ∈ commonKeys ++ headKeys, ∀ v : Value, Reserved headKeys (Value.text key, v).1 :=
      fun key hkey v => ⟨key, hkey, rfl⟩
    simp only [headEntries, List.forall_mem_append]
    exact ⟨⟨⟨forall_mem_textEntry (hkey _ (by decide)), forall_mem_textEntry (hkey _ (by decide))⟩,
      forall_mem_textEntry (hkey _ (by decide))⟩, forall_mem_listEntry (hkey _ (by decide))⟩
  obtain ⟨found, hperm, hread⟩ := h.attrs_perm hattrs hreserved (by simp [headEntries])
  refine ⟨{ head with location := some ⟨source, .null⟩, attrs := found }, ⟨rfl, rfl, hperm⟩, ?_⟩
  have hlocation := h.location (by simp [headEntries, Yaml.lineKey]) place source
  refine ⟨h.text? (by decide) (by decide) ?_ _ _, h.text? (by decide) (by decide) ?_ _ _, text?_of_under hpreamble _ _,
    text?_of_under hpostamble _ _, h.texts (by decide) (by decide) ?_ _ _, h.text? (by decide) (by decide) ?_ _ _,
    hread place source, congrArg some hlocation.symm⟩
  all_goals simp [headEntries]

end Description

/-! ## Descriptions -/

/-- The parts of a machine: its head, and its entities by section. -/
structure Blueprint where
  head : Head
  parts : Description.Section → List Entity

namespace Blueprint

open Description

/-- All entities in the order of the sections. -/
def entities (b : Blueprint) : List Entity := Section.all.flatMap b.parts

/-- The parts can be spelled out in a description. -/
structure Admissible (b : Blueprint) : Prop where
  head : AreAttrs b.head.attrs
  parts : ∀ s, ∀ e ∈ b.parts s, s.Admits e

/-- The entries of a description with a header and records. -/
def dataEntries (b : Blueprint) (header : Dict) (records : Section → List Dict) : Dict :=
  (.text "machine", .map header) :: textEntry "preamble" b.head.preamble ++ textEntry "postamble" b.head.postamble ++
    Section.all.map fun s => (.text s.name, .list ((records s).map .map))

/-- A description spells out all parts of a machine. -/
def IsSpelledBy (b : Blueprint) (data : Dict) : Prop :=
  ∃ (header : Dict) (records : Section → List Dict), Spells (headEntries b.head) headKeys b.head.attrs header ∧
    (∀ s, List.Forall₂ (fun e fields => Spells (entityEntries e) s.ownKeys e.attrs fields) (b.parts s) (records s)) ∧
      data.Perm (b.dataEntries header records)

end Blueprint

/-- Two ways to make a machine lead to the same one, but for places of declaration and the order of attributes. -/
structure Workspace.Retells (source : String) (built direct : Workspace) (m : MachineRef) : Prop where
  outline_eq : built.outline = direct.outline
  head : (built.machine m).head.Retells source (direct.machine m).head
  joined : ∀ r ∈ built.joined m, (built.entity r).Retells source (direct.entity r)
  allState : built.entity (built.machine m).allState = direct.entity (direct.machine m).allState

namespace Description

section
variable {b : Blueprint} {data header : Dict} {records : Section → List Dict}

theorem sectionItems_of_spelled (hdata : data.Perm (b.dataEntries header records)) (s : Section) (source : String) :
    sectionItems data s source = .ok ((records s).map .map) := by
  have hunder : under s.name (b.dataEntries header records) = [(.text s.name, .list ((records s).map .map))] := by
    cases s <;> simp [Blueprint.dataEntries, Section.all, Section.name]
  have hvalue : valueOf data s.name = .list ((records s).map .map) := by
    rw [valueOf_eq_head?, under_eq_of_perm hdata (hunder ▸ Nat.le_refl 1), hunder]
    rfl
  rw [sectionItems, ← valueOf, hvalue]

/-- The records of a section that spell entities out describe these. -/
theorem entitiesFrom_of_spelled {s : Section} {es : List Entity} {fields : List Dict} (hes : ∀ e ∈ es, s.Admits e)
    (h : List.Forall₂ (fun e fields => Spells (entityEntries e) s.ownKeys e.attrs fields) es fields) (source : String) :
    ∃ es', entitiesFrom s source 0 (fields.map .map) = .ok es' ∧ List.Forall₂ (Entity.Retells source) es' es := by
  suffices hall : ∃ es', List.Forall₂ (s.Accepts source) (fields.map .map) es' ∧
      List.Forall₂ (Entity.Retells source) es' es by
    obtain ⟨es', haccepts, hretells⟩ := hall
    exact ⟨es', (entitiesFrom_eq_ok_iff s source 0 _ es').mpr haccepts, hretells⟩
  induction h with
  | nil => exact ⟨[], .nil, .nil⟩
  | cons hfirst _ ih =>
    obtain ⟨hadmits, hrest⟩ := List.forall_mem_cons.mp hes
    obtain ⟨e', hretells, haccepts⟩ := accepts_of_spells hadmits hfirst source
    obtain ⟨es', haccepted, hretold⟩ := ih hrest
    exact ⟨e' :: es', .cons haccepts haccepted, .cons hretells hretold⟩

theorem entitiesIn_of_spelled (hb : b.Admissible) (hdata : data.Perm (b.dataEntries header records))
    (hrecords : ∀ s, List.Forall₂ (fun e fields => Spells (entityEntries e) s.ownKeys e.attrs fields) (b.parts s)
      (records s)) (source : String) (sections : List Section) :
    ∃ es, entitiesIn data source sections = .ok es ∧
      List.Forall₂ (Entity.Retells source) es (sections.flatMap b.parts) := by
  induction sections with
  | nil => exact ⟨[], rfl, .nil⟩
  | cons s rest ih =>
    obtain ⟨es, hes, hretells⟩ := entitiesFrom_of_spelled (hb.parts s) (hrecords s) source
    obtain ⟨fs, hfs, hretold⟩ := ih
    refine ⟨es ++ fs, ?_, List.rel_append hretells hretold⟩
    rw [entitiesIn, sectionItems_of_spelled hdata s source]
    simp only [bind_eq_ok_iff]
    exact ⟨_, rfl, es, hes, fs, hfs, rfl⟩

/-- A description that spells out the parts of a machine can be read as these. -/
theorem reads_of_spelled (hb : b.Admissible) (h : b.IsSpelledBy data) (source : String) :
    ∃ head es, Reads data source head es ∧ head.Retells source b.head ∧
      List.Forall₂ (Entity.Retells source) es b.entities := by
  obtain ⟨header', records, hheader, hrecords, hdata⟩ := h
  have hmachine : under "machine" (b.dataEntries header' records) = [(.text "machine", .map header')] := by
    simp [Blueprint.dataEntries, Section.all, Section.name]
  have hpreamble : under "preamble" (b.dataEntries header' records) = textEntry "preamble" b.head.preamble := by
    simp [Blueprint.dataEntries, Section.all, Section.name]
  have hpostamble : under "postamble" (b.dataEntries header' records) = textEntry "postamble" b.head.postamble := by
    simp [Blueprint.dataEntries, Section.all, Section.name]
  have hvalue : valueOf data "machine" = .map header' := by
    rw [valueOf_eq_head?, under_eq_of_perm hdata (hmachine ▸ Nat.le_refl 1), hmachine]
    rfl
  obtain ⟨head, hretells, hdescribes⟩ := describesHead_of_spells hb.head hheader
    ((under_eq_of_perm hdata (hpreamble ▸ length_textEntry_le _ _)).trans hpreamble)
    ((under_eq_of_perm hdata (hpostamble ▸ length_textEntry_le _ _)).trans hpostamble) source s!"{source}: machine"
  obtain ⟨es, hes, hretold⟩ := entitiesIn_of_spelled hb hdata hrecords source Section.all
  refine ⟨head, es, ⟨(readHead_eq_ok_iff data source head).mpr ⟨_, ?_, hdescribes⟩, hes⟩, hretells, hretold⟩
  exact (header_eq_ok_iff data source _).mpr ⟨header', hvalue ▸ .mapping header', rfl⟩

/-- To build a description that spells parts out ends like making a machine of the parts: with the same fault, or with
the same machine. -/
theorem build_of_spelled (ws : Workspace) (hb : b.Admissible) (h : b.IsSpelledBy data) (source : String) :
    (build ws data source false).2 = (ws.construct b.head b.entities).2 ∧
      ∀ m, (ws.construct b.head b.entities).2 = .ok m →
        (build ws data source false).1.Retells source (ws.construct b.head b.entities).1 m := by
  obtain ⟨head, es, hreads, hhead, hes⟩ := reads_of_spelled hb h source
  have hbuild := endAlike_build ws hreads
  have houtlines : es.map Entity.outline = b.entities.map Entity.outline := by
    rw [← List.forall₂_eq_eq_eq, List.forall₂_map_left_iff, List.forall₂_map_right_iff]
    exact hes.imp fun _ _ he => he.outline_eq
  obtain ⟨hsame, houtline⟩ := ws.construct_congr hhead.outline_eq houtlines
  refine ⟨hbuild.snd_eq.trans hsame, fun m hm => ?_⟩
  have hmade := Workspace.isMadeOf_construct (hsame.trans hm)
  have hmade' := Workspace.isMadeOf_construct hm
  rw [hbuild.eq_of_ok (hsame.trans hm)]
  refine ⟨houtline, ?_, hmade.forall_joined hmade' (hes.imp fun e e' he => ?_), ?_⟩
  · rw [hmade.head_eq, hmade'.head_eq]
    exact hhead
  · exact ⟨congrArg (fun e : Entity => e.named.ownedBy m) he.outline_eq, he.location, he.attrs⟩
  · rw [hmade.allState_eq, hmade'.allState_eq, hmade.entity_allState_eq, hmade'.entity_allState_eq]

end

/-- A lamp with attributes of its own and a class. -/
def lamp : Blueprint where
  head := { id := some "lamp", modes := ["c"], attrs := [(.text "volt", .int 5)] }
  parts
    | .classes => [{ id := "warm", attrs := [(.text "kelvin", .int 2700)], detail := .bundle }]
    | .actions => []
    | .states =>
      [{ id := "off", detail := .state [] [] none }, { id := "on", classIds := ["warm"], detail := .state [] [] none }]
    | .events => [{ id := "push", detail := .event (some "ui") }]
    | .arcs =>
      [{ id := "a", detail := .arc { fromId := some "off", toId := some "on", eventId := some "push" } }]

def lampHeader : Dict :=
  [(.text "id", .text "lamp"), (.text "modes", .list [.text "c"]), (.text "attrs", .map [(.text "volt", .int 5)])]

def lampRecords : Section → List Dict
  | .classes => [[(.text "id", .text "warm"), (.text "classes", .list []), (.text "kelvin", .int 2700)]]
  | .actions => []
  | .states =>
    [[(.text "id", .text "off"), (.text "classes", .list []), (.text "entry", .list []), (.text "exit", .list [])],
      [(.text "id", .text "on"), (.text "classes", .list [.text "warm"]), (.text "entry", .list []),
        (.text "exit", .list [])]]
  | .events => [[(.text "id", .text "push"), (.text "classes", .list []), (.text "type", .text "ui")]]
  | .arcs =>
    [[(.text "id", .text "a"), (.text "classes", .list []), (.text "from", .text "off"), (.text "to", .text "on"),
      (.text "event", .text "push"), (.text "handlers", .list [])]]

theorem areAttrs_singleton (key : String) (n : Int) (h : key ≠ Yaml.lineKey) : AreAttrs [(.text key, .int n)] where
  distinct := List.pairwise_singleton _ _
  unlined := by
    have hkey : (Value.text key == .text Yaml.lineKey) = false :=
      Bool.eq_false_iff.mpr fun heq => h (Value.text.inj ((Value.beq_text_iff _ _).mp heq))
    simp [Value.anyPart, Value.anyPartUnder, Value.keysLine, hkey]

theorem areAttrs_nil : AreAttrs [] := ⟨.nil, rfl⟩

theorem lamp_admissible : lamp.Admissible where
  head := areAttrs_singleton "volt" 5 (by decide)
  parts := by
    intro s
    cases s <;> simp only [lamp, List.forall_mem_cons, List.not_mem_nil, false_imp_iff, implies_true, and_true]
    case classes => exact ⟨.ofClass, areAttrs_singleton "kelvin" 2700 (by decide), rfl⟩
    case states => exact ⟨⟨.ofState [] [], areAttrs_nil, rfl⟩, ⟨.ofState [] [], areAttrs_nil, rfl⟩⟩
    case events => exact ⟨.ofEvent "ui", areAttrs_nil, rfl⟩
    case arcs => exact ⟨.ofArc "off" "on" "push" none [], areAttrs_nil, rfl⟩

theorem lamp_isSpelledBy : lamp.IsSpelledBy (lamp.dataEntries lampHeader lampRecords) := by
  have hnone : ∀ {given fields : Dict} {ownKeys : List String}, fields = given → Spells given ownKeys [] fields :=
    fun h => .beside (fun _ he => nomatch he) (by rw [h, List.append_nil])
  have hwarm : Spells (entityEntries { id := "warm", detail := .bundle }) [] [(.text "kelvin", .int 2700)]
      [(.text "id", .text "warm"), (.text "classes", .list []), (.text "kelvin", .int 2700)] :=
    .beside (by simp [Reserved, commonKeys, Yaml.lineKey]) (.refl _)
  refine ⟨lampHeader, lampRecords, .within _ [] (.refl _) (fun _ he => nomatch he) (.refl _), fun s => ?_, .refl _⟩
  cases s with
  | classes => exact .cons hwarm .nil
  | actions => exact .nil
  | states => exact .cons (hnone rfl) (.cons (hnone rfl) .nil)
  | events => exact .cons (hnone rfl) .nil
  | arcs => exact .cons (hnone rfl) .nil

theorem build_of_spelled_lamp :
    lamp.Admissible ∧ lamp.IsSpelledBy (lamp.dataEntries lampHeader lampRecords) ∧
      (build {} (lamp.dataEntries lampHeader lampRecords) "lamp.yaml" false).2 = .ok ⟨0⟩ ∧
      (build {} (lamp.dataEntries lampHeader lampRecords) "lamp.yaml" false).1.Retells "lamp.yaml"
        (Workspace.construct {} lamp.head lamp.entities).1 ⟨0⟩ := by
  have hmade : (Workspace.construct {} lamp.head lamp.entities).2 = .ok ⟨0⟩ := ok_of_toOption (by decide +kernel)
  obtain ⟨hsame, hretells⟩ := build_of_spelled {} lamp_admissible lamp_isSpelledBy "lamp.yaml"
  exact ⟨lamp_admissible, lamp_isSpelledBy, hsame.trans hmade, hretells ⟨0⟩ hmade⟩

end Description

end StateMachine
