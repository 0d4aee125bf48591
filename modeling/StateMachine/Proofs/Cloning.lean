import StateMachine.Proofs.Agreement
import StateMachine.Proofs.Extracting

/-!
# What a new machine is made of

The entities that are shared, the copies of arcs, and the state `#ALL` of the new machine. All that was there before
stays as it was until the new machine takes it over.
-/

namespace StateMachine.Workspace

/-- The reference of the machine that is made next. -/
def nextMachine (ws : Workspace) : MachineRef := ⟨ws.machines.length⟩

/-- The head of the machine that is extracted from this one. -/
def headFor (ws : Workspace) (m : MachineRef) : Head := Head.copied (ws.machine m).head

section
variable (ws : Workspace) (m : MachineRef) (arcs : List FiringArc)

/-! ## Before the batch is added -/

theorem length_founding (head : Head) : (ws.founding head).entities.length = ws.entities.length + 1 := by
  simp [founding, newEntity]

theorem entity_founding_old (head : Head) (r : EntityRef) (h : r.index < ws.entities.length) :
    (ws.founding head).entity r = ws.entity r :=
  entity_newEntity_old ws ws.nextAllState r h

theorem entity_stocked_old (r : EntityRef) (h : r.index < ws.entities.length) :
    (ws.stocked m arcs).entity r = ws.entity r := by
  rw [stocked, withCopies, entity_newEntities_old _ _ _ (by rw [length_founding]; omega)]
  exact entity_founding_old ws _ r h

theorem entity_stocked_all : (ws.stocked m arcs).entity ⟨ws.entities.length⟩ = ws.nextAllState.named := by
  rw [stocked, withCopies, entity_newEntities_old _ _ _ (by rw [length_founding]; exact Nat.lt_succ_self _)]
  exact entity_newEntity_new ws ws.nextAllState

theorem length_entities_stocked : ws.entities.length < (ws.stocked m arcs).entities.length := by
  rw [stocked, withCopies, newEntities_eq, List.length_append, length_founding]
  omega

theorem machines_stocked : (ws.stocked m arcs).machines = ws.machines ++
    [⟨ws.headFor m, { reserved := (ws.machine m).head.id, entries := [(allStateId, ⟨ws.entities.length⟩)] },
      ⟨ws.entities.length⟩, fun _ => [], []⟩] := by
  rw [stocked, withCopies, newEntities_eq]
  rfl

theorem machine_stocked_old (n : MachineRef) (h : n.index < ws.machines.length) :
    (ws.stocked m arcs).machine n = ws.machine n := by
  rw [machine_eq, machines_stocked, List.getElem?_append_left h, machine_eq]

theorem machine_stocked_new : (ws.stocked m arcs).machine ws.nextMachine =
    ⟨ws.headFor m, { reserved := (ws.machine m).head.id, entries := [(allStateId, ⟨ws.entities.length⟩)] },
      ⟨ws.entities.length⟩, fun _ => [], []⟩ := by
  rw [machine_eq, machines_stocked, nextMachine, List.getElem?_append_right (Nat.le_refl _)]
  simp

theorem takenIds_stocked : (ws.stocked m arcs).takenIds ws.nextMachine = [allStateId] := by
  rw [takenIds, machine_stocked_new]
  rfl

theorem nextMachine_lt_stocked : ws.nextMachine.index < (ws.stocked m arcs).machines.length := by
  rw [machines_stocked, nextMachine]
  simp

/-- The copies in the new workspace. -/
def copied : List EntityRef := (ws.founding (ws.headFor m)).copies arcs

theorem copied_fresh (r : EntityRef) (h : r ∈ ws.copied m arcs) :
    ws.entities.length < r.index ∧ r.index < (ws.stocked m arcs).entities.length := by
  have hfresh := newEntities_fresh _ _ r h
  rw [length_founding] at hfresh
  exact hfresh

theorem batch_eq (events states : List EntityRef) (hm : m.index < ws.machines.length) :
    ws.batch m events states arcs =
      events ++ states ++ ws.copied m arcs ++ (ws.members m .bundle ++ ws.members m .action) := by
  rw [batch, members, members, machine_stocked_old ws m arcs m hm]
  rfl

/-- Each copy says what its arc says; one that names no constant gets the default one. -/
theorem map_entity_copied (h : ∀ a ∈ arcs, (ws.firing a).kind = .arc) :
    (ws.copied m arcs).map (ws.stocked m arcs).entity = arcs.map fun a => (ws.copyOf a).named := by
  have hsame : ∀ a ∈ arcs, (ws.founding (ws.headFor m)).copyOf a = ws.copyOf a := by
    intro a ha
    cases a with
    | derived e => rfl
    | declared r =>
      have hr : r.index < ws.entities.length := by
        apply known_of_holds
        rw [kindOf]
        exact (congrArg Machine.holds (h _ ha)).trans rfl
      simp only [copyOf, firing, entity_founding_old ws _ r hr]
  have hmap := map_entity_newEntities (ws.founding (ws.headFor m)) (arcs.map (ws.founding (ws.headFor m)).copyOf)
  refine Eq.trans hmap ?_
  rw [List.map_map]
  apply List.map_congr_left
  intro a ha
  rw [Function.comp_apply, hsame a ha]

end

/-! ## The batch -/

/-- The selected events, the states and the arcs of a machine are of the kinds they should be. -/
structure Parts (ws : Workspace) (m : MachineRef) (events states : List EntityRef) (arcs : List FiringArc) :
    Prop where
  inRange : m.index < ws.machines.length
  consistent : (ws.machine m).Consistent ws.kindOf ws.entities.length
  events : ∀ r ∈ events, r ∈ ws.members m .event
  states : ∀ r ∈ states, ws.kindOf r = .state
  arcs : ∀ a ∈ arcs, (ws.firing a).kind = .arc

/-- The ids that the new machine is to give out, besides `#ALL`. -/
def wanted (ws : Workspace) (m : MachineRef) (events states : List EntityRef) (arcs : List FiringArc) : List String :=
  ws.idsOf events ++ ws.idsOf states ++ arcs.map (fun a => (ws.firing a).id) ++
    ws.idsOf (ws.members m .bundle ++ ws.members m .action)

section
variable {ws : Workspace} {m : MachineRef} {events states : List EntityRef} {arcs : List FiringArc}
  (p : Parts ws m events states arcs)
include p

theorem Parts.old (r : EntityRef)
    (h : r ∈ events ++ states ∨ r ∈ ws.members m .bundle ++ ws.members m .action) : r.index < ws.entities.length := by
  rw [List.mem_append, List.mem_append] at h
  rcases h with (h | h) | (h | h)
  · exact (known_of_mem_members p.consistent .event r (p.events r h)).1
  · apply known_of_holds
    rw [p.states r h]
    rfl
  · exact (known_of_mem_members p.consistent .bundle r h).1
  · exact (known_of_mem_members p.consistent .action r h).1

theorem Parts.kindOf_member (kind : Kind) (r : EntityRef) (h : r ∈ ws.members m kind) :
    (ws.stocked m arcs).kindOf r = kind := by
  obtain ⟨hlt, hkind⟩ := known_of_mem_members p.consistent kind r h
  rw [kindOf, entity_stocked_old ws m arcs r hlt]
  exact hkind

theorem Parts.kindOf_state (r : EntityRef) (h : r ∈ states) : (ws.stocked m arcs).kindOf r = .state := by
  rw [kindOf, entity_stocked_old ws m arcs r (p.old r (Or.inl (List.mem_append_right _ h)))]
  exact p.states r h

theorem Parts.kindOf_copied (r : EntityRef) (h : r ∈ ws.copied m arcs) : (ws.stocked m arcs).kindOf r = .arc := by
  have hmem : (ws.stocked m arcs).entity r ∈ (ws.copied m arcs).map (ws.stocked m arcs).entity :=
    List.mem_map_of_mem h
  rw [map_entity_copied ws m arcs p.arcs] at hmem
  obtain ⟨a, ha, heq⟩ := List.mem_map.mp hmem
  rw [kindOf, ← heq]
  exact p.arcs a ha

theorem Parts.idsOf_batch :
    (ws.stocked m arcs).idsOf (ws.batch m events states arcs) = ws.wanted m events states arcs := by
  have hold : ∀ refs : List EntityRef,
      (∀ r ∈ refs, r ∈ events ++ states ∨ r ∈ ws.members m .bundle ++ ws.members m .action) →
      refs.map (fun r => ((ws.stocked m arcs).entity r).id) = refs.map fun r => (ws.entity r).id := by
    intro refs hrefs
    apply List.map_congr_left
    intro r hr
    rw [entity_stocked_old ws m arcs r (p.old r (hrefs r hr))]
  have hcopied : (ws.copied m arcs).map (fun r => ((ws.stocked m arcs).entity r).id) =
      arcs.map fun a => (ws.firing a).id := by
    have hids := congrArg (List.map Entity.id) (map_entity_copied ws m arcs p.arcs)
    rw [List.map_map, List.map_map] at hids
    exact hids
  rw [batch_eq ws m arcs events states p.inRange, wanted, idsOf, idsOf, idsOf, idsOf, List.map_append,
    List.map_append, List.map_append, hcopied, hold _ fun r hr => Or.inr hr,
    hold events fun r hr => Or.inl (List.mem_append_left _ hr),
    hold states fun r hr => Or.inl (List.mem_append_right _ hr)]

theorem Parts.filter_batch (kind : Kind) :
    (ws.batch m events states arcs).filter ((ws.stocked m arcs).kindOf · = kind) =
      (if .event = kind then events else []) ++ (if .state = kind then states else []) ++
        (if .arc = kind then ws.copied m arcs else []) ++
          ((if .bundle = kind then ws.members m .bundle else []) ++
            (if .action = kind then ws.members m .action else [])) := by
  have hone : ∀ (refs : List EntityRef) (k : Kind), (∀ r ∈ refs, (ws.stocked m arcs).kindOf r = k) →
      refs.filter ((ws.stocked m arcs).kindOf · = kind) = if k = kind then refs else [] := by
    intro refs k hrefs
    split
    case isTrue hk => exact List.filter_eq_self.mpr fun r hr => by simp [hrefs r hr, hk]
    case isFalse hk => exact List.filter_eq_nil_iff.mpr fun r hr => by simp [hrefs r hr, hk]
  rw [batch_eq ws m arcs events states p.inRange]
  simp only [List.filter_append]
  rw [hone events .event fun r hr => p.kindOf_member .event r (p.events r hr), hone states .state p.kindOf_state,
    hone _ .arc p.kindOf_copied, hone _ .bundle (p.kindOf_member .bundle), hone _ .action (p.kindOf_member .action)]

theorem Parts.holds_batch (r : EntityRef) (h : r ∈ ws.batch m events states arcs) :
    Machine.holds ((ws.stocked m arcs).kindOf r) = true := by
  rw [batch_eq ws m arcs events states p.inRange, List.mem_append, List.mem_append, List.mem_append,
    List.mem_append] at h
  rcases h with ((h | h) | h) | (h | h)
  · rw [p.kindOf_member .event r (p.events r h)]
    rfl
  · rw [p.kindOf_state r h]
    rfl
  · rw [p.kindOf_copied r h]
    rfl
  · rw [p.kindOf_member .bundle r h]
    rfl
  · rw [p.kindOf_member .action r h]
    rfl

/-- The new machine takes the whole batch if its ids differ from each other, from `#ALL` and from its own. -/
theorem Parts.admits_iff :
    (ws.stocked m arcs).Admits ws.nextMachine (ws.batch m events states arcs) ↔
      (allStateId :: ws.wanted m events states arcs).Nodup ∧
        ∀ id ∈ ws.wanted m events states arcs, (ws.machine m).head.id ≠ some id := by
  rw [List.nodup_cons]
  constructor
  · intro h
    have hdistinct := h.distinct
    have hfree := h.free
    have hallowed := h.allowed
    rw [p.idsOf_batch] at hdistinct hfree hallowed
    rw [takenIds_stocked] at hfree
    rw [machine_stocked_new] at hallowed
    exact ⟨⟨fun hmem => hfree _ hmem (by simp), hdistinct⟩, hallowed⟩
  · rintro ⟨⟨hall, hdistinct⟩, hallowed⟩
    refine ⟨p.holds_batch, ?_, ?_, ?_⟩
    · rw [p.idsOf_batch]
      exact hdistinct
    · rw [p.idsOf_batch, takenIds_stocked]
      intro id hid hmem
      exact hall (List.mem_singleton.mp hmem ▸ hid)
    · rw [p.idsOf_batch, machine_stocked_new]
      exact hallowed

end

/-! ## After the batch is added -/

/-- The workspace in which the new machine has taken over the whole batch. -/
def cloned (ws : Workspace) (m : MachineRef) (events states : List EntityRef) (arcs : List FiringArc) : Workspace :=
  (ws.stocked m arcs).takingAll ws.nextMachine (ws.batch m events states arcs)

section
variable {ws : Workspace} {m : MachineRef} {events states : List EntityRef} {arcs : List FiringArc}
  (p : Parts ws m events states arcs)

theorem machine_cloned_old (n : MachineRef) (h : n.index < ws.machines.length) :
    (ws.cloned m events states arcs).machine n = ws.machine n := by
  have hne : n ≠ ws.nextMachine := by
    rintro rfl
    exact Nat.lt_irrefl _ h
  rw [cloned, machine_takingAll_ne _ _ _ n hne, machine_stocked_old ws m arcs n h]

theorem machine_cloned_new : (ws.cloned m events states arcs).machine ws.nextMachine =
    { head := ws.headFor m
      registry :=
        { reserved := (ws.machine m).head.id
          entries := (allStateId, ⟨ws.entities.length⟩) :: (ws.batch m events states arcs).map fun r =>
            (((ws.stocked m arcs).entity r).id, r) }
      allState := ⟨ws.entities.length⟩
      members := fun k => (ws.batch m events states arcs).filter ((ws.stocked m arcs).kindOf · = k)
      warnings := [] } := by
  rw [cloned, machine_takingAll_self _ _ _ (nextMachine_lt_stocked ws m arcs), machine_stocked_new]
  rfl

theorem length_machines_cloned : (ws.cloned m events states arcs).machines.length = ws.machines.length + 1 := by
  rw [cloned, length_machines_takingAll, machines_stocked, List.length_append]
  rfl

theorem id_cloned (r : EntityRef) :
    ((ws.cloned m events states arcs).entity r).id = ((ws.stocked m arcs).entity r).id :=
  entity_takingAll_congr _ _ _ Entity.id (fun _ => rfl) r

theorem kindOf_cloned : (ws.cloned m events states arcs).kindOf = (ws.stocked m arcs).kindOf :=
  kindOf_takingAll _ _ _

/-- All entities of the new machine have the ids under which it took them over. -/
theorem named_cloned : (ws.cloned m events states arcs).Named ws.nextMachine := by
  rw [Named, machine_cloned_new]
  intro entry he
  rw [id_cloned]
  rcases List.mem_cons.mp he with rfl | he
  · rw [entity_stocked_all]
    rfl
  · obtain ⟨r, _, rfl⟩ := List.mem_map.mp he
    rfl

include p

theorem members_cloned (kind : Kind) : (ws.cloned m events states arcs).members ws.nextMachine kind =
    (if .event = kind then events else []) ++ (if .state = kind then states else []) ++
      (if .arc = kind then ws.copied m arcs else []) ++
        ((if .bundle = kind then ws.members m .bundle else []) ++
          (if .action = kind then ws.members m .action else [])) := by
  rw [members, machine_cloned_new]
  exact p.filter_batch kind

theorem members_cloned_arc : (ws.cloned m events states arcs).members ws.nextMachine .arc = ws.copied m arcs := by
  simp [members_cloned p]

theorem mem_batch_of_copied (r : EntityRef) (h : r ∈ ws.copied m arcs) : r ∈ ws.batch m events states arcs := by
  rw [batch_eq ws m arcs events states p.inRange]
  exact List.mem_append_left _ (List.mem_append_right _ h)

/-- A copy says what its arc says, and belongs to the new machine. -/
theorem map_entity_cloned : (ws.copied m arcs).map (ws.cloned m events states arcs).entity =
    arcs.map fun a => { (ws.copyOf a).named with machine := some ws.nextMachine } := by
  have htaken : ∀ r ∈ ws.copied m arcs, (ws.cloned m events states arcs).entity r =
      { (ws.stocked m arcs).entity r with machine := some ws.nextMachine } := fun r hr =>
    entity_takingAll_of_mem _ _ _ r (mem_batch_of_copied p r hr) (copied_fresh ws m arcs r hr).2
  have hcopies := congrArg (List.map fun e : Entity => { e with machine := some ws.nextMachine })
    (map_entity_copied ws m arcs p.arcs)
  rw [List.map_map, List.map_map] at hcopies
  exact (List.map_congr_left htaken).trans hcopies

theorem arcsBelong_cloned : (ws.cloned m events states arcs).ArcsBelong ws.nextMachine := by
  rw [ArcsBelong, members_cloned_arc p]
  intro r hr
  have hmem : (ws.cloned m events states arcs).entity r ∈
      (ws.copied m arcs).map (ws.cloned m events states arcs).entity := List.mem_map_of_mem hr
  rw [map_entity_cloned p] at hmem
  obtain ⟨a, _, heq⟩ := List.mem_map.mp hmem
  rw [← heq]

theorem agrees_cloned : Agrees ws (ws.cloned m events states arcs) m := by
  have hold : ∀ entry ∈ (ws.machine m).registry.entries, (ws.stocked m arcs).entity entry.2 = ws.entity entry.2 :=
    fun entry he => entity_stocked_old ws m arcs entry.2 (p.consistent.known entry he)
  refine ⟨?_, ?_, ?_, ?_⟩
  · rw [machine_cloned_old m p.inRange]
  · intro entry he
    rw [kindOf_cloned, kindOf, hold entry he, kindOf]
  · intro entry he
    rw [id_cloned, hold entry he]
  · intro r hr
    obtain ⟨hlt, hkind⟩ := known_of_mem_members p.consistent .arc r hr
    have hnew : r ∉ ws.batch m events states arcs := by
      intro hmem
      have hcopied : r ∈ (ws.batch m events states arcs).filter ((ws.stocked m arcs).kindOf · = .arc) :=
        List.mem_filter.mpr ⟨hmem, decide_eq_true (p.kindOf_member .arc r hr)⟩
      rw [p.filter_batch] at hcopied
      have hfresh := (copied_fresh ws m arcs r (by simpa using hcopied)).1
      omega
    rw [cloned, entity_takingAll_of_not_mem _ _ _ r hnew, entity_stocked_old ws m arcs r hlt]

end

end StateMachine.Workspace
