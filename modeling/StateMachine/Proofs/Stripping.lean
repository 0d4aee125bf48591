import StateMachine.Proofs.Describing
import StateMachine.Proofs.Lining

/-!
# Lines in descriptions

The value of a file with lines describes the machine that its value without lines describes, declared at other places.
The lines are fields of no record, and they are taken out of attributes where they are found.
-/

namespace StateMachine

/-! ## Fields -/

namespace Value

section
variable {p l : Value}

theorem asText?_of_lined (h : Lined p l) {found : Option String} (hl : l.asText? = some found) :
    p.asText? = some found := by
  cases h with
  | scalar => exact hl
  | _ => cases hl

theorem eq_of_lined_texts {ps : List Value} {texts : List String} (h : List.Forall₂ Lined ps (texts.map text)) :
    ps = texts.map text := by
  induction texts generalizing ps with
  | nil => exact List.forall₂_nil_right_iff.mp h
  | cons s rest ih =>
    cases h with
    | cons hfirst hrest =>
      cases hfirst
      rw [ih hrest, List.map_cons]

theorem lists_of_lined (h : Lined p l) {texts : List String} (hl : l.Lists texts) : p.Lists texts := by
  cases hl with
  | nothing =>
    cases h
    exact .nothing
  | alone s =>
    cases h
    exact .alone s
  | several =>
    cases h with
    | scalar => exact .several texts
    | list h => exact eq_of_lined_texts h ▸ .several texts

/-- The second mapping is the first one with lines. One that is missing has no line itself. -/
inductive LinedDict (ps : Dict) : Dict → Prop
  | bare {ls : Dict} (h : List.Forall₂ LinedEntry ps ls) : LinedDict ps ls
  | lined {ls : Dict} (h : List.Forall₂ LinedEntry ps ls) (line : Int) :
      LinedDict ps (ls ++ [(text Yaml.lineKey, int line)])

theorem maps_of_lined (h : Lined p l) {dict : Dict} (hl : l.Maps dict) : ∃ ps, p.Maps ps ∧ LinedDict ps dict := by
  cases hl with
  | mapping =>
    cases h with
    | scalar _ h => cases h
    | map h line => exact ⟨_, .mapping _, .lined h line⟩
  | nothing _ hfalsy =>
    have hnone : LinedDict [] [] := .bare .nil
    cases h with
    | scalar => exact ⟨[], .nothing _ hfalsy, hnone⟩
    | list h | tuple h =>
      rw [truthy, Bool.not_eq_false', List.isEmpty_iff] at hfalsy
      subst hfalsy
      obtain rfl := List.forall₂_nil_right_iff.mp h
      exact ⟨[], .nothing _ rfl, hnone⟩
    | set | map => simp [truthy] at hfalsy

theorem unlined_of_maps (hfree : p.Unlined) {ps : Dict} (h : p.Maps ps) : (map ps).Unlined := by
  cases h with
  | mapping => exact hfree
  | nothing => rfl

end

end Value

namespace Description

open Value

section
variable {ps dict : Dict}

theorem lookup_of_linedEntry {ls : Dict} (h : List.Forall₂ LinedEntry ps ls) (key : Value) :
    (ps.lookup key = none ∧ ls.lookup key = none) ∨
      ∃ p l, ps.lookup key = some p ∧ ls.lookup key = some l ∧ Lined p l := by
  induction h with
  | nil => exact .inl ⟨rfl, rfl⟩
  | cons hfirst _ ih =>
    cases hfirst with
    | mk k hvalue =>
      rw [List.lookup_cons, List.lookup_cons]
      cases key == k with
      | true => exact .inr ⟨_, _, rfl, rfl, hvalue⟩
      | false => exact ih

/-- The value of a field but for the line is that of the field without lines, with them. -/
theorem lined_valueOf (h : LinedDict ps dict) {key : String} (hkey : key ≠ Yaml.lineKey) :
    Lined (valueOf ps key) (valueOf dict key) := by
  have hentries : ∀ {ls : Dict}, List.Forall₂ LinedEntry ps ls → Lined (valueOf ps key) (valueOf ls key) := by
    intro ls hls
    rcases lookup_of_linedEntry hls (.text key) with ⟨hp, hl⟩ | ⟨p, l, hp, hl, hlined⟩
    · rw [valueOf, Value.field?, hp, valueOf, Value.field?, hl]
      exact .scalar .null rfl
    · rw [valueOf, Value.field?, hp, valueOf, Value.field?, hl]
      exact hlined
  cases h with
  | bare h => exact hentries h
  | @lined ls h line =>
    have hother : (Value.text key == .text Yaml.lineKey) = false :=
      Bool.eq_false_iff.mpr fun heq => hkey (Value.text.inj ((beq_text_iff _ _).mp heq))
    have hline : [(Value.text Yaml.lineKey, Value.int line)].lookup (.text key) = none := by
      rw [List.lookup_cons, hother, List.lookup_nil]
    have hvalue : valueOf (ls ++ [(.text Yaml.lineKey, .int line)]) key = valueOf ls key := by
      rw [valueOf, Value.field?, List.lookup_append, hline, Option.or_none, ← Value.field?, ← valueOf]
    exact hvalue ▸ hentries h

theorem unlined_valueOf (hfree : (Value.map ps).Unlined) (key : String) : (valueOf ps key).Unlined := by
  induction ps with
  | nil => rfl
  | cons entry rest ih =>
    obtain ⟨k, v⟩ := entry
    rw [unlined_map_cons_iff] at hfree
    have hrest := ih hfree.2
    rw [valueOf, Value.field?] at hrest ⊢
    rw [List.lookup_cons]
    cases Value.text key == k with
    | true => exact hfree.1.2
    | false => exact hrest

/-- A record says without lines what it says with them. -/
theorem echoes_of_lined {r r' : Record} (h : LinedDict r'.fields r.fields) : r.Echoes r' where
  text? key hkey found hfound := by
    rw [Record.text?_eq_ok_iff] at hfound ⊢
    exact asText?_of_lined (lined_valueOf h hkey) hfound
  texts key hkey found hfound := by
    rw [Record.texts_eq_ok_iff] at hfound ⊢
    exact lists_of_lined (lined_valueOf h hkey) hfound

end

/-! ## Attributes -/

section
variable {ps ls : Dict}

theorem forall₂_put (h : List.Forall₂ LinedEntry ps ls) (key : Value) {p l : Value} (hvalue : Lined p l) :
    List.Forall₂ LinedEntry (Assoc.put key p ps) (Assoc.put key l ls) := by
  induction h with
  | nil => exact .cons (.mk key hvalue) .nil
  | cons hfirst hrest ih =>
    cases hfirst with
    | mk k hold =>
      rw [Assoc.put, Assoc.put]
      split
      · exact .cons (.mk k hvalue) hrest
      · exact .cons (.mk k hold) ih

theorem forall₂_foldl_put {ps' ls' : Dict} (h : List.Forall₂ LinedEntry ps ls)
    (h' : List.Forall₂ LinedEntry ps' ls') :
    List.Forall₂ LinedEntry (ps'.foldl (fun acc (k, v) => Assoc.put k v acc) ps)
      (ls'.foldl (fun acc (k, v) => Assoc.put k v acc) ls) := by
  refine List.rel_foldl ?_ h h'
  intro acc acc' hacc entry entry' hentry
  cases hentry with
  | mk k hvalue => exact forall₂_put hacc k hvalue

theorem forall₂_filter_keys (h : List.Forall₂ LinedEntry ps ls) (keep : Value → Bool) :
    List.Forall₂ LinedEntry (ps.filter fun (k, _) => keep k) (ls.filter fun (k, _) => keep k) := by
  refine List.rel_filter ?_ h
  intro entry entry' hentry
  cases hentry
  exact Iff.rfl

/-- The line is not among entries with other keys. -/
theorem linedEntry_filter_keys {dict : Dict} (h : LinedDict ps dict) {keep : Value → Bool}
    (hline : keep (.text Yaml.lineKey) = false) :
    List.Forall₂ LinedEntry (ps.filter fun (k, _) => keep k) (dict.filter fun (k, _) => keep k) := by
  cases h with
  | bare h => exact forall₂_filter_keys h keep
  | lined h line =>
    rw [List.filter_append, List.filter_cons]
    simpa [hline] using forall₂_filter_keys h keep

theorem unlined_put (hfree : (Value.map ps).Unlined) {key v : Value} (hkey : key ≠ .text Yaml.lineKey)
    (hv : v.Unlined) : (Value.map (Assoc.put key v ps)).Unlined := by
  induction ps with
  | nil => exact (unlined_map_iff _).mpr (List.forall_mem_singleton.mpr ⟨hkey, hv⟩)
  | cons entry rest ih =>
    obtain ⟨k, x⟩ := entry
    rw [unlined_map_cons_iff] at hfree
    rw [Assoc.put]
    split
    · exact (unlined_map_cons_iff k v rest).mpr ⟨⟨hfree.1.1, hv⟩, hfree.2⟩
    · exact (unlined_map_cons_iff k x _).mpr ⟨hfree.1, ih hfree.2⟩

theorem unlined_foldl_put {ps' : Dict} (hfree : (Value.map ps).Unlined) (hfree' : (Value.map ps').Unlined) :
    (Value.map (ps'.foldl (fun acc (k, v) => Assoc.put k v acc) ps)).Unlined := by
  induction ps' generalizing ps with
  | nil => exact hfree
  | cons entry rest ih =>
    rw [unlined_map_cons_iff] at hfree'
    exact ih (unlined_put hfree hfree'.1.1 hfree'.1.2) hfree'.2

end

/-- A line that is among the entries that are put last is not among those that are left. -/
theorem entriesWithoutLines_foldl_put {ps ls ps' dict : Dict} (h : List.Forall₂ LinedEntry ps ls)
    (hfree : (Value.map ps).Unlined) (hdict : LinedDict ps' dict) (hfree' : (Value.map ps').Unlined) :
    ∃ ls', List.Forall₂ LinedEntry (ps'.foldl (fun acc (k, v) => Assoc.put k v acc) ps) ls' ∧
      entriesWithoutLines (dict.foldl (fun acc (k, v) => Assoc.put k v acc) ls) = entriesWithoutLines ls' := by
  cases hdict with
  | bare h' => exact ⟨_, forall₂_foldl_put h h', rfl⟩
  | lined h' line =>
    have hput := forall₂_foldl_put h h'
    refine ⟨_, hput, ?_⟩
    rw [List.foldl_append, List.foldl_cons, List.foldl_nil]
    dsimp only
    rw [put_of_distinct _ _ _ (Yaml.keys_of_linedEntry hput (unlined_foldl_put hfree hfree')),
      entriesWithoutLines_append_line]

/-- Attributes of which lines were taken out, and what they are without lines. They are the same, and the key of the
line is nowhere in them, exactly if no lines were missed. -/
structure Stripped (attrs plain : Dict) : Prop where
  unlined_plain : (Value.map plain).Unlined
  eq_iff : attrs = plain ↔ ∀ entry ∈ plain, entry.2.leaks = false
  unlined_iff : (Value.map attrs).Unlined ↔ ∀ entry ∈ plain, entry.2.leaks = false

theorem stripped_nil : Stripped [] [] := ⟨rfl, by simp, iff_of_true rfl (by simp)⟩

theorem stripped_of_linedEntry {ps ls : Dict} (h : List.Forall₂ LinedEntry ps ls) (hfree : (Value.map ps).Unlined) :
    Stripped (entriesWithoutLines ls) ps := by
  have hleft := linesLeft_entriesWithoutLines ps ls h ((unlined_map_iff ps).mp hfree)
  refine ⟨hfree, ?_, ?_⟩
  · rw [← leaksUnder_eq_false_iff, ← hleft.eq_iff, Value.map.injEq]
  · rw [← leaksUnder_eq_false_iff, ← hleft.unlined_iff]

theorem attrs_of_lined {r r' : Record} (h : LinedDict r'.fields r.fields) (hfree : (Value.map r'.fields).Unlined)
    {ownKeys : List String} {attrs : Dict} (hattrs : r.attrs ownKeys = .ok attrs) :
    ∃ plain, r'.attrs ownKeys = .ok plain ∧ Stripped attrs plain := by
  obtain ⟨given, hmaps, rfl⟩ := (Record.attrs_eq_ok_iff r ownKeys attrs).mp hattrs
  obtain ⟨given', hmaps', hgiven⟩ := maps_of_lined (lined_valueOf h (by decide)) hmaps
  have hfreeGiven := unlined_of_maps (unlined_valueOf hfree "attrs") hmaps'
  refine ⟨_, (Record.attrs_eq_ok_iff r' ownKeys _).mpr ⟨given', hmaps', rfl⟩, ?_⟩
  let isExtra : Value → Bool := fun k => !(commonKeys ++ ownKeys).any fun name => k == .text name
  have hline : isExtra (.text Yaml.lineKey) = false := by
    rw [Bool.not_eq_false', List.any_eq_true]
    exact ⟨Yaml.lineKey, List.mem_append_left _ (by decide), (beq_text_iff _ _).mpr rfl⟩
  have hextra := linedEntry_filter_keys h hline
  have hfreeExtra : (Value.map (r'.fields.filter fun (k, _) => isExtra k)).Unlined :=
    (unlined_map_iff _).mpr fun entry he => (unlined_map_iff _).mp hfree entry (List.mem_of_mem_filter he)
  have hfreePlain := unlined_foldl_put hfreeExtra hfreeGiven
  obtain ⟨ls, hls, heq⟩ := entriesWithoutLines_foldl_put hextra hfreeExtra hgiven hfreeGiven
  have hstripped := stripped_of_linedEntry hls hfreePlain
  rw [← heq, ← entriesWithoutLines_of_unlined hfreePlain] at hstripped
  exact hstripped

/-! ## Descriptions -/

/-- An entity with attributes of which lines were taken out, and the entity as it is without lines. -/
structure StrippedEntity (e plain : Entity) : Prop where
  outline_eq : plain.outline = e.outline
  attrs : Stripped e.attrs plain.attrs

/-- A head with attributes of which lines were taken out, and the head as it is without lines. -/
structure StrippedHead (head plain : Head) : Prop where
  outline_eq : plain.outline = head.outline
  attrs : Stripped head.attrs plain.attrs

section
variable {source : String}

theorem accepts_of_lined {s : Section} {p l : Value} {e : Entity} (h : Lined p l) (hfree : p.Unlined)
    (haccepts : s.Accepts source l e) : ∃ plain, s.Accepts source p plain ∧ StrippedEntity e plain := by
  obtain ⟨fields, rfl, hdescribes⟩ := haccepts
  cases h with
  | scalar _ h => cases h
  | @map ps ls h line =>
    let r : Record := ⟨ls ++ [(.text Yaml.lineKey, .int line)], source, source⟩
    let r' : Record := ⟨ps, source, source⟩
    have hfields : LinedDict r'.fields r.fields := .lined h line
    obtain ⟨attrs, hattrs, hstripped⟩ := attrs_of_lined hfields hfree (hdescribes source).common.attrs
    have hplain := (hdescribes source).echo (echoes_of_lined hfields) hattrs
    exact ⟨_, ⟨ps, rfl, fun place => hplain.elsewhere place⟩, rfl, hstripped⟩

theorem accepts_each_of_lined {s : Section} {ps ls : List Value} {es : List Entity} (h : List.Forall₂ Lined ps ls)
    (hfree : ∀ p ∈ ps, p.Unlined) (haccepts : List.Forall₂ (s.Accepts source) ls es) :
    ∃ plain, List.Forall₂ (s.Accepts source) ps plain ∧ List.Forall₂ StrippedEntity es plain := by
  induction h generalizing es with
  | nil =>
    cases haccepts
    exact ⟨[], .nil, .nil⟩
  | cons hfirst _ ih =>
    cases haccepts with
    | cons haccept hrest =>
      obtain ⟨hp, hps⟩ := List.forall_mem_cons.mp hfree
      obtain ⟨e', he', hstripped⟩ := accepts_of_lined hfirst hp haccept
      obtain ⟨es', hes', hall⟩ := ih hps hrest
      exact ⟨e' :: es', .cons he' hes', .cons hstripped hall⟩

variable {ps data : Dict}

theorem sectionItems_of_lined (h : LinedDict ps data) (hfree : (Value.map ps).Unlined) {s : Section}
    {items : List Value} (hitems : sectionItems data s source = .ok items) :
    ∃ plain, sectionItems ps s source = .ok plain ∧ List.Forall₂ Lined plain items ∧ ∀ p ∈ plain, p.Unlined := by
  have hkey : s.name ≠ Yaml.lineKey := by cases s <;> decide
  have hlined := lined_valueOf h hkey
  have hvalue := unlined_valueOf hfree s.name
  rw [sectionItems, ← valueOf] at hitems ⊢
  generalize valueOf ps s.name = p at hlined hvalue
  generalize valueOf data s.name = l at hlined hitems
  split at hitems
  case h_1 =>
    cases hlined
    obtain rfl := Except.ok.inj hitems
    exact ⟨[], rfl, .nil, List.forall_mem_nil _⟩
  case h_2 ls =>
    cases hlined with
    | scalar _ h => cases h
    | list hmembers =>
      obtain rfl := Except.ok.inj hitems
      exact ⟨_, rfl, hmembers, (unlined_list_iff _).mp hvalue⟩
  case h_3 => cases hitems

theorem entitiesIn_of_lined (h : LinedDict ps data) (hfree : (Value.map ps).Unlined) {sections : List Section}
    {es : List Entity} (hes : entitiesIn data source sections = .ok es) :
    ∃ plain, entitiesIn ps source sections = .ok plain ∧ List.Forall₂ StrippedEntity es plain := by
  induction sections generalizing es with
  | nil =>
    obtain rfl := Except.ok.inj hes
    exact ⟨[], rfl, .nil⟩
  | cons s rest ih =>
    rw [entitiesIn] at hes ⊢
    simp only [bind_eq_ok_iff, entitiesFrom_eq_ok_iff] at hes ⊢
    obtain ⟨items, hitems, es₁, hes₁, es₂, hes₂, heq⟩ := hes
    obtain rfl := Except.ok.inj heq
    obtain ⟨items', hitems', hlined, hfreeItems⟩ := sectionItems_of_lined h hfree hitems
    obtain ⟨plain₁, hplain₁, hall₁⟩ := accepts_each_of_lined hlined hfreeItems hes₁
    obtain ⟨plain₂, hplain₂, hall₂⟩ := ih hes₂
    exact ⟨plain₁ ++ plain₂, ⟨items', hitems', plain₁, hplain₁, plain₂, hplain₂, rfl⟩, List.rel_append hall₁ hall₂⟩

theorem readHead_of_lined (h : LinedDict ps data) (hfree : (Value.map ps).Unlined) {head : Head}
    (hhead : readHead data source = .ok head) :
    ∃ plain, readHead ps source = .ok plain ∧ StrippedHead head plain := by
  obtain ⟨own, hown, hdescribes⟩ := (readHead_eq_ok_iff data source head).mp hhead
  obtain ⟨entries, hmaps, rfl⟩ := (header_eq_ok_iff data source own).mp hown
  obtain ⟨entries', hmaps', hentries⟩ := maps_of_lined (lined_valueOf h (by decide)) hmaps
  let own : Record := ⟨entries, s!"{source}: machine", source⟩
  let own' : Record := ⟨entries', s!"{source}: machine", source⟩
  let root : Record := ⟨data, source, source⟩
  let root' : Record := ⟨ps, source, source⟩
  have hfields : LinedDict own'.fields own.fields := hentries
  have hrootFields : LinedDict root'.fields root.fields := h
  have hown' : header ps source = .ok own' := (header_eq_ok_iff ps source own').mpr ⟨entries', hmaps', rfl⟩
  have hfreeOwn := unlined_of_maps (unlined_valueOf hfree "machine") hmaps'
  obtain ⟨attrs, hattrs, hstripped⟩ := attrs_of_lined hfields hfreeOwn hdescribes.attrs
  have hplain := hdescribes.echo (echoes_of_lined hfields) (echoes_of_lined hrootFields) hattrs
  exact ⟨_, (readHead_eq_ok_iff ps source _).mpr ⟨own', hown', hplain⟩, rfl, hstripped⟩

/-- A description that can be read with lines can be read without. -/
theorem reads_of_lined (h : LinedDict ps data) (hfree : (Value.map ps).Unlined) {head : Head} {es : List Entity}
    (hreads : Reads data source head es) :
    ∃ plainHead plain, Reads ps source plainHead plain ∧ StrippedHead head plainHead ∧
      List.Forall₂ StrippedEntity es plain := by
  obtain ⟨plainHead, hhead, hstripped⟩ := readHead_of_lined h hfree hreads.head_eq
  obtain ⟨plain, hes, hall⟩ := entitiesIn_of_lined h hfree hreads.entities_eq
  exact ⟨plainHead, plain, ⟨hhead, hes⟩, hstripped, hall⟩

end

/-! ## Machines -/

theorem attrs_unnumbered (e : Entity) : e.unnumbered.attrs = e.attrs := by
  obtain ⟨d, h⟩ := e.withNumber_eq none
  rw [Entity.unnumbered, h]

theorem unnumbered_outline (e : Entity) : e.outline.unnumbered = e.unnumbered.outline := by
  obtain ⟨_, _, _, _, _, _, _, detail⟩ := e
  cases detail <;> rfl

theorem bare_outline (ws : Workspace) : ws.outline.bare = ws.bare.outline := by
  simp only [Workspace.bare, Workspace.outline, List.map_map, Workspace.mk.injEq, and_true]
  exact ⟨List.map_congr_left fun e _ => unnumbered_outline e, List.map_congr_left fun _ _ => rfl⟩

/-- A machine with attributes of which lines were taken out, and the machine as it is without lines. Both are the same
but for places of declaration and attributes. -/
structure StrippedMachine (lined plain : Workspace) (m : MachineRef) : Prop where
  outline_eq : lined.bare.outline = plain.bare.outline
  head : Stripped (lined.machine m).head.attrs (plain.machine m).head.attrs
  entities : ∀ r ∈ (lined.machine m).allState :: lined.joined m, Stripped (lined.entity r).attrs (plain.entity r).attrs

theorem StrippedMachine.of_bare_eq {lined lined' plain plain' : Workspace} {m : MachineRef}
    (h : StrippedMachine lined plain m) (hlined : lined'.bare = lined.bare) (hplain : plain'.bare = plain.bare) :
    StrippedMachine lined' plain' m := by
  have hattrs : ∀ {ws ws' : Workspace}, ws'.bare = ws.bare → ∀ r, (ws'.entity r).attrs = (ws.entity r).attrs := by
    intro ws ws' hbare r
    rw [← attrs_unnumbered, Workspace.unnumbered_of_bare_eq hbare r, attrs_unnumbered]
  have hmachine : (lined'.machine m).unwarned = (lined.machine m).unwarned :=
    Workspace.unwarned_of_bare_eq hlined m
  have hallState : (lined'.machine m).allState = (lined.machine m).allState := congrArg (·.allState) hmachine
  refine ⟨by rw [hlined, hplain, h.outline_eq], ?_, ?_⟩
  · rw [Workspace.head_of_bare_eq hlined, Workspace.head_of_bare_eq hplain]
    exact h.head
  · intro r hr
    rw [hallState, Workspace.joined_of_bare_eq hlined] at hr
    rw [hattrs hlined, hattrs hplain]
    exact h.entities r hr

theorem StrippedMachine.isValid_eq {lined plain : Workspace} {m : MachineRef} (h : StrippedMachine lined plain m) :
    (plain.check m).1.isValid = (lined.check m).1.isValid := by
  have hbare : ∀ ws : Workspace, (ws.bare.outline.check m).1.isValid = (ws.check m).1.isValid := by
    intro ws
    rw [Workspace.isValid_outline, Workspace.check_eq_examine, Workspace.examine_bare, Workspace.check_eq_examine]
  rw [← hbare plain, ← h.outline_eq, hbare lined]

/-- What is made of a head and entities is stripped as these are. -/
theorem strippedMachine_construct {ws : Workspace} {head plainHead : Head} {es plain : List Entity} {m : MachineRef}
    (hhead : StrippedHead head plainHead) (hes : List.Forall₂ StrippedEntity es plain)
    (h : (ws.construct head es).2 = .ok m) : (ws.construct plainHead plain).2 = .ok m ∧
      StrippedMachine (ws.construct head es).1 (ws.construct plainHead plain).1 m := by
  have houtlines : plain.map Entity.outline = es.map Entity.outline := by
    have heach := hes.imp fun _ _ hstripped => hstripped.outline_eq
    have hmapped := List.forall₂_map_left_iff.mpr (List.forall₂_map_right_iff.mpr heach.flip)
    exact List.forall₂_eq_eq_eq ▸ hmapped
  obtain ⟨hsame, houtline⟩ := ws.construct_congr hhead.outline_eq houtlines
  have h' : (ws.construct plainHead plain).2 = .ok m := hsame.trans h
  have hmade := Workspace.isMadeOf_construct h
  have hmade' := Workspace.isMadeOf_construct h'
  refine ⟨h', ?_, ?_, ?_⟩
  · rw [← bare_outline, ← bare_outline, houtline]
  · rw [hmade.head_eq, hmade'.head_eq]
    exact hhead.attrs
  · intro r hr
    rcases List.mem_cons.mp hr with rfl | hr
    · rw [hmade.allState_eq, hmade.entity_allState_eq, hmade'.entity_allState_eq]
      exact stripped_nil
    · exact hmade.forall_joined (R := fun e e' => Stripped e.attrs e'.attrs) hmade'
        (hes.imp fun _ _ hstripped => hstripped.attrs) r hr

theorem strippedMachine_build {ws : Workspace} {data ps : Dict} {source : String} {validate : Bool} {m : MachineRef}
    (hdata : LinedDict ps data) (hfree : (Value.map ps).Unlined) (h : (build ws data source validate).2 = .ok m) :
    (build ws ps source validate).2 = .ok m ∧
      StrippedMachine (build ws data source validate).1 (build ws ps source validate).1 m := by
  obtain ⟨head, es, hreads⟩ := reads_of_build ws h
  obtain ⟨plainHead, plain, hreads', hhead, hes⟩ := reads_of_lined hdata hfree hreads
  obtain ⟨hbuilt, hvalid⟩ := (build_ok_iff ws validate m).mp h
  have hend := endAlike_build ws hreads
  have hend' := endAlike_build ws hreads'
  have hmade : (ws.construct head es).2 = .ok m := hend.snd_eq.symm.trans hbuilt
  obtain ⟨hmade', hstripped⟩ := strippedMachine_construct hhead hes hmade
  rw [← hend.eq_of_ok hmade, ← hend'.eq_of_ok hmade'] at hstripped
  have hsame := hstripped.isValid_eq
  exact ⟨(build_ok_iff ws validate m).mpr ⟨hend'.snd_eq.trans hmade', fun hvalidate => hsame ▸ hvalid hvalidate⟩,
    hstripped.of_bare_eq (bare_build ws validate) (bare_build ws validate)⟩

/-! ## Files -/

/-- A file that makes a machine makes the same one without lines, if nothing in it has the key of the line. The
attributes are the same as well, and the key is nowhere in them, exactly where no lines were missed. -/
theorem load_stripped (ws : Workspace) (path text : String) (validate : Bool) {m : MachineRef}
    (hfree : ∀ p, Yaml.read? false text = some p → p.Unlined) (h : (load ws path text validate).2 = .ok m) :
    ∃ p, Yaml.read? false text = some p ∧ (loadValue ws path p validate).2 = .ok m ∧
      StrippedMachine (load ws path text validate).1 (loadValue ws path p validate).1 m := by
  rw [load, readValue] at h ⊢
  cases hl : Yaml.read? true text with
  | none =>
    rw [hl] at h
    cases h
  | some l =>
    rw [hl] at h
    dsimp only at h ⊢
    obtain ⟨p, hp, hlined⟩ := Yaml.lined_of_read? hl
    have hunlined := hfree p hp
    refine ⟨p, hp, ?_⟩
    rw [loadValue] at h ⊢
    rw [loadValue]
    cases hdata : ofValue path l with
    | error fault =>
      rw [hdata] at h
      cases h
    | ok data =>
      rw [hdata] at h
      obtain ⟨ps, hmaps, hentries⟩ := maps_of_lined (hlined hunlined) ((ofValue_eq_ok_iff path l data).mp hdata)
      rw [(ofValue_eq_ok_iff path p ps).mpr hmaps]
      exact strippedMachine_build hentries (unlined_of_maps hunlined hmaps) h

/-- The text of a file with a list, a mapping and a set in attributes. -/
def boxed : String := "machine: {id: m, tags: [a, {b: 1}]}\nstates: [{id: s, box: !!set {a}}]"

theorem load_stripped_boxed :
    (∀ p, Yaml.read? false boxed = some p → p.Unlined) ∧ (load {} "m.yaml" boxed true).2 = .ok ⟨0⟩ ∧
      ∃ p, Yaml.read? false boxed = some p ∧ (loadValue {} "m.yaml" p true).2 = .ok ⟨0⟩ ∧
        StrippedMachine (load {} "m.yaml" boxed true).1 (loadValue {} "m.yaml" p true).1 ⟨0⟩ := by
  have hchecked : ((Yaml.read? false boxed).all fun p => !p.anyPart holdsLine) = true := by decide +kernel
  have hfree : ∀ p, Yaml.read? false boxed = some p → p.Unlined := by
    intro p hp
    rw [hp] at hchecked
    exact (Bool.not_eq_true' _).mp hchecked
  have hloaded : (load {} "m.yaml" boxed true).2 = .ok ⟨0⟩ := ok_of_toOption (by decide +kernel)
  exact ⟨hfree, hloaded, load_stripped {} "m.yaml" boxed true hfree hloaded⟩

/-- A set in an attribute keeps the key of the line, and so does a mapping in a list of pairs. -/
theorem keeps_line : ∀ text ∈ ["machine: {tags: !!set {a}}", "machine: {tags: !!omap [{a: {b: 1}}]}"],
    ∃ p m, Yaml.read? false text = some p ∧ p.Unlined ∧ (load {} "m.yaml" text true).2 = .ok m ∧
      ¬ (Value.map ((load {} "m.yaml" text true).1.machine m).head.attrs).Unlined ∧
      (Value.map ((loadValue {} "m.yaml" p true).1.machine m).head.attrs).Unlined := by
  intro text htext
  have hchecked : ((Yaml.read? false text).any fun p => !p.anyPart holdsLine &&
      (load {} "m.yaml" text true).2.toOption.any fun m =>
        (Value.map ((load {} "m.yaml" text true).1.machine m).head.attrs).anyPart holdsLine &&
          !(Value.map ((loadValue {} "m.yaml" p true).1.machine m).head.attrs).anyPart holdsLine) = true := by
    revert text
    decide +kernel
  rw [Option.any_eq_true] at hchecked
  obtain ⟨p, hp, hboth⟩ := hchecked
  rw [Bool.and_eq_true, Bool.not_eq_true', Option.any_eq_true] at hboth
  obtain ⟨hfree, m, hm, hattrs⟩ := hboth
  rw [Bool.and_eq_true, Bool.not_eq_true'] at hattrs
  exact ⟨p, m, hp, hfree, ok_of_toOption hm, (Bool.not_eq_false _).mpr hattrs.1, hattrs.2⟩

theorem not_all_lines_stripped :
    ¬ ∀ (ws : Workspace) (path text : String) (validate : Bool) (m : MachineRef) (p : Value),
      Yaml.read? false text = some p → p.Unlined → (load ws path text validate).2 = .ok m →
        ((load ws path text validate).1.machine m).head.attrs =
          ((loadValue ws path p validate).1.machine m).head.attrs := by
  intro h
  obtain ⟨p, m, hp, hfree, hloaded, hlined, hplain⟩ := keeps_line "machine: {tags: !!set {a}}" (by simp)
  rw [h {} "m.yaml" _ true m p hp hfree hloaded] at hlined
  exact hlined hplain

end Description

end StateMachine
