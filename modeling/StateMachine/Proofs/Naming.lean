import StateMachine.Proofs.Blending
import StateMachine.Proofs.Describing

/-!
# Arcs named by the builder

The records of arcs may leave out their ids, and the builder names them then. A description that leaves this to the
builder everywhere makes a machine exactly if no two arcs and no arc and another entity are named alike, and which arcs
are named alike can be read off their parts.
-/

namespace StateMachine.Description

/-! ## What is read -/

theorem entitiesIn_append {data : Dict} {source : String} {sections more : List Section} {es fs : List Entity}
    (hes : entitiesIn data source sections = .ok es) (hfs : entitiesIn data source more = .ok fs) :
    entitiesIn data source (sections ++ more) = .ok (es ++ fs) := by
  induction sections generalizing es with
  | nil =>
    obtain rfl := Except.ok.inj hes
    exact hfs
  | cons s rest ih =>
    rw [entitiesIn] at hes
    simp only [bind_eq_ok_iff] at hes
    obtain ⟨items, hitems, first, hfirst, others, hothers, heq⟩ := hes
    obtain rfl := Except.ok.inj heq
    rw [List.cons_append, entitiesIn]
    simp only [bind_eq_ok_iff]
    refine ⟨items, hitems, first, hfirst, others ++ fs, ih hothers, ?_⟩
    rw [List.append_assoc]
    rfl

/-- Every entity that is read is described by a record in one of the sections. -/
theorem exists_record_of_mem {data : Dict} {source : String} {sections : List Section} {es : List Entity}
    (h : entitiesIn data source sections = .ok es) {e : Entity} (he : e ∈ es) :
    ∃ s ∈ sections, ∃ items fields, valueOf data s.name = .list items ∧ .map fields ∈ items ∧
      s.Describes ⟨fields, source, source⟩ e := by
  induction sections generalizing es with
  | nil =>
    obtain rfl := Except.ok.inj h
    cases he
  | cons s rest ih =>
    rw [entitiesIn] at h
    simp only [bind_eq_ok_iff] at h
    obtain ⟨items, hitems, first, hfirst, others, hothers, heq⟩ := h
    obtain rfl := Except.ok.inj heq
    rcases List.mem_append.mp he with he | he
    · have haccepted := (entitiesFrom_eq_ok_iff s source 0 items first).mp hfirst
      obtain ⟨v, hv, fields, rfl, hdescribes⟩ := exists_of_mem_of_forall₂ haccepted.flip he
      refine ⟨s, List.mem_cons_self, items, fields, ?_, hv, hdescribes source⟩
      rw [sectionItems, ← valueOf] at hitems
      revert hitems
      cases valueOf data s.name with
      | null =>
        intro hitems
        obtain rfl := Except.ok.inj hitems
        cases hv
      | list xs => exact fun hitems => congrArg Value.list (Except.ok.inj hitems)
      | _ =>
        intro hitems
        cases hitems
    · obtain ⟨s', hs', hrecord⟩ := ih hothers he
      exact ⟨s', List.mem_cons_of_mem s hs', hrecord⟩

theorem Section.Describes.holds {s : Section} {r : Record} {e : Entity} (h : s.Describes r e) :
    Machine.holds e.kind = true := by
  obtain ⟨_, _, _, _, _, _, _, detail⟩ := e
  cases h.tells <;> rfl

/-! ## Ids that are given -/

/-- What tells one arc from another: origin, event, target and guard. -/
def courseOf (a : Entity) : Option String × Option String × Option String × Option String :=
  (a.transition.fromId, a.transition.eventId, a.transition.toId, a.transition.guard)

/-- The parts of the id that an arc is given. -/
def partsOfArc (a : Entity) : List String :=
  arcParts (a.transition.fromId.getD "") (a.transition.eventId.getD "") (a.transition.toId.getD "") a.transition.guard

/-- An arc that has a course, and the id that is made of it. -/
def IsNamedArc (a : Entity) : Prop :=
  ∃ fromId eventId toId guard, courseOf a = (some fromId, some eventId, some toId, guard) ∧
    a.id = arcId fromId eventId toId guard

theorem isNamedArc_of_describes {r : Record} {a : Entity} (h : Section.arcs.Describes r a)
    (hunnamed : valueOf r.fields "id" = .null) : IsNamedArc a := by
  obtain ⟨-, htells⟩ := h
  obtain ⟨id, _, _, _, _, _, _, detail⟩ := a
  dsimp only at htells
  cases htells with
  | ofArc hfrom hto hevent hguard hid hhandlers =>
    rw [Record.text?_eq_ok_iff, hunnamed] at hid
    obtain rfl := Option.some.inj hid
    exact ⟨_, _, _, _, rfl, rfl⟩

theorem partsOfArc_ne_nil (a : Entity) : partsOfArc a ≠ [] := List.cons_ne_nil _ _

section
variable {a b : Entity}

theorem partsOfArc_eq {fromId eventId toId : String} {guard : Option String}
    (h : courseOf a = (some fromId, some eventId, some toId, guard)) :
    partsOfArc a = arcParts fromId eventId toId guard := by
  simp only [courseOf, Prod.mk.injEq] at h
  simp only [partsOfArc, h, Option.getD_some]

theorem IsNamedArc.id_eq (h : IsNamedArc a) : a.id = joined (partsOfArc a) := by
  obtain ⟨fromId, eventId, toId, guard, hcourse, hid⟩ := h
  rw [hid, arcId_eq_joined, partsOfArc_eq hcourse]

theorem IsNamedArc.courseOf_eq (ha : IsNamedArc a) (hb : IsNamedArc b) (h : partsOfArc a = partsOfArc b) :
    courseOf a = courseOf b := by
  obtain ⟨_, _, _, _, hcourse, -⟩ := ha
  obtain ⟨_, _, _, _, hcourse', -⟩ := hb
  rw [partsOfArc_eq hcourse, partsOfArc_eq hcourse'] at h
  obtain ⟨rfl, rfl, rfl, rfl⟩ := arcParts_injective h
  rw [hcourse, hcourse']

/-- Two arcs have parts that blend, one way or the other. -/
def BlendArcs (a b : Entity) : Prop := Blends (partsOfArc a) (partsOfArc b) ∨ Blends (partsOfArc b) (partsOfArc a)

/-- Arcs that differ are named alike exactly if their parts blend. -/
theorem IsNamedArc.id_eq_iff (ha : IsNamedArc a) (hb : IsNamedArc b) (hdiffer : courseOf a ≠ courseOf b) :
    a.id = b.id ↔ BlendArcs a b := by
  rw [ha.id_eq, hb.id_eq, joined_eq_iff (partsOfArc_ne_nil a) (partsOfArc_ne_nil b), BlendArcs]
  exact or_iff_right fun h => hdiffer (ha.courseOf_eq hb h)

theorem IsNamedArc.holdsSeparator (h : IsNamedArc a) : HoldsSeparator a.id := by
  rw [h.id_eq]
  exact holdsSeparator_joined _ (List.cons_ne_nil _ _)

theorem IsNamedArc.id_ne_allStateId (h : IsNamedArc a) : a.id ≠ allStateId := by
  intro heq
  have hsep := h.holdsSeparator
  rw [heq] at hsep
  revert hsep
  decide

/-- The ids by which an arc names its origin, its event and its target are told apart from what follows. -/
def HasPlainEnds (a : Entity) : Prop := ∀ part ∈ (partsOfArc a).take 3, IsPlain part

theorem not_blends_of_hasPlainEnds (h : HasPlainEnds b) : ¬ Blends (partsOfArc a) (partsOfArc b) := by
  intro hblend
  obtain ⟨i, part, hpart, hi, hnot⟩ := hblend.exists_not_isPlain
  have hlength : (partsOfArc a).length ≤ 4 := by
    rw [partsOfArc, arcParts, List.length_append]
    have := Option.length_toList_le (o := a.transition.guard)
    simp only [List.length_cons, List.length_nil]
    omega
  refine hnot (h part (List.mem_of_getElem? (i := i) ?_))
  rw [List.getElem?_take_of_lt (by omega), hpart]

end

/-! ## Descriptions that leave arcs unnamed -/

/-- A description that can be read leaves out the ids of all arcs, which differ. Other entities have ids that differ
from one another, from the id of the machine and from `#ALL`. -/
structure LeavesArcsUnnamed (data : Dict) (source : String) (head : Head) (others arcs : List Entity) : Prop where
  head_eq : readHead data source = .ok head
  legal : ∀ text, head.ownMessage = some text → checkMessage text = .ok ()
  others_eq : entitiesIn data source [.classes, .actions, .states, .events] = .ok others
  arcs_eq : entitiesIn data source [.arcs] = .ok arcs
  unnamed : ∀ items fields, valueOf data "arcs" = .list items → .map fields ∈ items → valueOf fields "id" = .null
  differ : (arcs.map courseOf).Nodup
  apart : (allStateId :: others.map (·.id)).Nodup
  unreserved : ∀ e ∈ others, head.id ≠ some e.id

section
variable {data : Dict} {source : String} {head : Head} {others arcs : List Entity}

theorem LeavesArcsUnnamed.reads (h : LeavesArcsUnnamed data source head others arcs) :
    Reads data source head (others ++ arcs) :=
  ⟨h.head_eq, entitiesIn_append h.others_eq h.arcs_eq⟩

theorem LeavesArcsUnnamed.isNamedArc (h : LeavesArcsUnnamed data source head others arcs) :
    ∀ a ∈ arcs, IsNamedArc a := by
  intro a ha
  obtain ⟨s, hs, items, fields, hitems, hfields, hdescribes⟩ := exists_record_of_mem h.arcs_eq ha
  obtain rfl := List.mem_singleton.mp hs
  exact isNamedArc_of_describes hdescribes (h.unnamed items fields hitems hfields)

theorem LeavesArcsUnnamed.holds (h : LeavesArcsUnnamed data source head others arcs) :
    ∀ e ∈ others ++ arcs, Machine.holds e.kind = true := by
  intro e he
  obtain ⟨_, _, _, _, _, _, hdescribes⟩ := exists_record_of_mem h.reads.entities_eq he
  exact hdescribes.holds

/-- No arc is named like another arc, another entity or the machine, which is not named `#ALL`. -/
structure NamesApart (head : Head) (others arcs : List Entity) : Prop where
  head_ne : head.id ≠ some allStateId
  arcs_apart : arcs.Pairwise fun a b => ¬ BlendArcs a b
  others_apart : ∀ a ∈ arcs, ∀ e ∈ others, a.id ≠ e.id
  reserved_apart : ∀ a ∈ arcs, head.id ≠ some a.id

theorem LeavesArcsUnnamed.nodup_arcs_iff (h : LeavesArcsUnnamed data source head others arcs) :
    (arcs.map (·.id)).Nodup ↔ arcs.Pairwise fun a b => ¬ BlendArcs a b := by
  have hdiffer : arcs.Pairwise fun a b => courseOf a ≠ courseOf b := List.pairwise_map.mp h.differ
  rw [List.Nodup, List.pairwise_map]
  constructor
  · intro hids
    exact (hdiffer.and hids).imp_of_mem fun {a b} ha hb hab =>
      ((h.isNamedArc a ha).id_eq_iff (h.isNamedArc b hb) hab.1).not.mp hab.2
  · intro hblend
    exact (hdiffer.and hblend).imp_of_mem fun {a b} ha hb hab =>
      ((h.isNamedArc a ha).id_eq_iff (h.isNamedArc b hb) hab.1).not.mpr hab.2

/-- Ids are given out once exactly if no arc is named like something else. -/
theorem LeavesArcsUnnamed.nodup_ids_iff (h : LeavesArcsUnnamed data source head others arcs) :
    (head.id.toList ++ allStateId :: (others ++ arcs).map (·.id)).Nodup ↔ NamesApart head others arcs := by
  obtain ⟨hall, hothers⟩ := List.nodup_cons.mp h.apart
  have harcs : allStateId ∉ arcs.map (·.id) := fun hmem => by
    obtain ⟨a, ha, hid⟩ := List.mem_map.mp hmem
    exact (h.isNamedArc a ha).id_ne_allStateId hid
  rw [Workspace.nodup_reserved_iff, List.map_append, List.nodup_cons, List.nodup_append, h.nodup_arcs_iff]
  constructor
  · rintro ⟨hhead, ⟨-, -, hpairs, hdisjoint⟩, hreserved⟩
    refine ⟨hhead, hpairs, fun a ha e he heq => ?_, fun a ha => ?_⟩
    · exact hdisjoint e.id (List.mem_map_of_mem he) a.id (List.mem_map_of_mem ha) heq.symm
    · exact hreserved a.id (List.mem_append_right _ (List.mem_map_of_mem ha))
  · intro hapart
    refine ⟨hapart.head_ne, ⟨?_, hothers, hapart.arcs_apart, ?_⟩, ?_⟩
    · rw [List.mem_append]
      exact not_or.mpr ⟨hall, harcs⟩
    · rintro id hid _ hother rfl
      obtain ⟨e, he, rfl⟩ := List.mem_map.mp hid
      obtain ⟨a, ha, heq⟩ := List.mem_map.mp hother
      exact hapart.others_apart a ha e he heq
    · intro id hid
      rcases List.mem_append.mp hid with hid | hid
      · obtain ⟨e, he, rfl⟩ := List.mem_map.mp hid
        exact h.unreserved e he
      · obtain ⟨a, ha, rfl⟩ := List.mem_map.mp hid
        exact hapart.reserved_apart a ha

/-- Names are apart where those that are given hold no separators and those of endpoints and events do not end like one
either. Guards may be anything. -/
theorem namesApart_of_plain (hnamed : ∀ a ∈ arcs, IsNamedArc a) (hhead : head.id ≠ some allStateId)
    (hplain : ∀ a ∈ arcs, HasPlainEnds a) (hothers : ∀ e ∈ others, ¬ HoldsSeparator e.id)
    (hreserved : ∀ id, head.id = some id → ¬ HoldsSeparator id) : NamesApart head others arcs where
  head_ne := hhead
  arcs_apart := List.pairwise_of_forall_mem_list fun a ha b hb hblend => hblend.elim
    (not_blends_of_hasPlainEnds (hplain b hb)) (not_blends_of_hasPlainEnds (hplain a ha))
  others_apart := fun a ha e he heq => hothers e he (heq ▸ (hnamed a ha).holdsSeparator)
  reserved_apart := fun a ha heq => hreserved a.id heq (hnamed a ha).holdsSeparator

/-- What building makes of a description that leaves arcs unnamed. -/
structure NamesArcs (ws : Workspace) (data : Dict) (source : String) (head : Head) (others arcs : List Entity) :
    Prop where
  id_eq : ∀ a ∈ arcs, ∃ fromId eventId toId guard,
    courseOf a = (some fromId, some eventId, some toId, guard) ∧ a.id = arcId fromId eventId toId guard
  ok_iff : (∃ m, (build ws data source false).2 = .ok m) ↔ NamesApart head others arcs
  ids_eq : ∀ m, (build ws data source false).2 = .ok m →
    (build ws data source false).1.idsOf ((build ws data source false).1.joined m) = (others ++ arcs).map (·.id)
  fault_eq : ∀ fault, (build ws data source false).2 = .error fault →
    ∃ id existing new, fault = .duplicateIdentifier id existing new head.id ∧
      2 ≤ (head.id.toList ++ allStateId :: (others ++ arcs).map (·.id)).count id
  ok_of_plain : head.id ≠ some allStateId → (∀ a ∈ arcs, HasPlainEnds a) → (∀ e ∈ others, ¬ HoldsSeparator e.id) →
    (∀ id, head.id = some id → ¬ HoldsSeparator id) → ∃ m, (build ws data source false).2 = .ok m

end

/-- A description of two arcs that are named alike: one goes from `a__b` to `d` on `c`, the other from `a` to `d` on
`b__c`. -/
def crossing : Dict :=
  let record (fields : List (String × String)) : Value := .map (fields.map fun (k, v) => (.text k, .text v))
  [(.text "machine", record [("id", "m")]),
   (.text "states", .list [record [("id", "a")], record [("id", "a__b")], record [("id", "d")]]),
   (.text "events", .list [record [("id", "c")], record [("id", "b__c")]]),
   (.text "arcs", .list [record [("from", "a__b"), ("event", "c"), ("to", "d")],
     record [("from", "a"), ("event", "b__c"), ("to", "d")]])]

namespace crossing

def place : Option Location := some ⟨"(dict)", .null⟩

def head : Head := { id := some "m", location := place }

def others : List Entity :=
  [("a", Detail.state [] [] none), ("a__b", .state [] [] none), ("d", .state [] [] none), ("c", .event (some "")),
    ("b__c", .event (some ""))].map fun (id, detail) => { id, location := place, detail }

def arcs : List Entity :=
  [("a__b", "c"), ("a", "b__c")].map fun (fromId, eventId) =>
    { id := "a__b__c__d", location := place,
      detail := .arc { fromId := some fromId, eventId := some eventId, toId := some "d" } }

theorem leavesArcsUnnamed : LeavesArcsUnnamed crossing "(dict)" head others arcs where
  head_eq := rfl
  legal := fun _ htext => nomatch htext
  others_eq := rfl
  arcs_eq := rfl
  unnamed := by
    intro items fields hitems hfields
    obtain rfl := Value.list.inj hitems
    simp only [List.mem_cons, List.not_mem_nil, or_false] at hfields
    rcases hfields with hfields | hfields <;>
    · obtain rfl := Value.map.inj hfields
      rfl
  differ := by decide
  apart := by decide
  unreserved := by decide

theorem not_namesApart : ¬ NamesApart head others arcs := fun h =>
  List.rel_of_pairwise_cons h.arcs_apart (List.mem_singleton.mpr rfl)
    (Or.inr (.whole "a" "b" (List.cons_ne_nil _ _) (by decide)))

end crossing

end StateMachine.Description
