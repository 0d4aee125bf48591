import StateMachine.Proofs.Clashing

/-!
# The machines that entities belong to

An entity belongs to a machine that is there, or to none. This holds after every run in which no operation names a
machine that is not there.
-/

namespace StateMachine

namespace Workspace

/-! ## Entities and machines that are there -/

/-- Every entity belongs to a machine that is there, or to none. -/
def Placed (ws : Workspace) : Prop := ∀ e ∈ ws.entities, ∀ n ∈ e.machine, n.index < ws.machines.length

instance (ws : Workspace) : Decidable ws.Placed :=
  inferInstanceAs (Decidable (∀ e ∈ ws.entities, ∀ n ∈ e.machine, n.index < ws.machines.length))

theorem placed_iff (ws : Workspace) :
    ws.Placed ↔ ∀ r n, (ws.entity r).machine = some n → n.index < ws.machines.length := by
  constructor
  · intro h r n hr
    by_cases hknown : r.index < ws.entities.length
    · rw [entity_eq, List.getElem?_eq_getElem hknown] at hr
      exact h _ (List.getElem_mem hknown) n hr
    · rw [entity_eq, List.getElem?_eq_none (Nat.le_of_not_lt hknown)] at hr
      cases hr
  · intro h e he n hn
    obtain ⟨i, hi, rfl⟩ := List.getElem_of_mem he
    refine h ⟨i⟩ n ?_
    rw [entity_eq, List.getElem?_eq_getElem hi]
    exact hn

/-! ## Single changes -/

theorem placed_of_bare_eq {ws ws' : Workspace} (h : ws'.bare = ws.bare) (hp : ws.Placed) : ws'.Placed := by
  rw [placed_iff] at hp ⊢
  intro r n hr
  rw [length_machines_of_bare_eq h]
  apply hp r n
  rw [← Entity.machine_unnumbered, ← unnumbered_of_bare_eq h, Entity.machine_unnumbered, hr]

theorem placed_newEntity {ws : Workspace} (e : Entity) (he : ∀ n ∈ e.machine, n.index < ws.machines.length)
    (h : ws.Placed) : (ws.newEntity e).2.Placed := by
  intro e' he'
  rcases List.mem_append.mp he' with he' | he'
  · exact h e' he'
  · rw [List.mem_singleton.mp he']
    exact he

theorem placed_newEntities {ws : Workspace} (es : List Entity) (hes : ∀ e ∈ es, e.machine = none) (h : ws.Placed) :
    (ws.newEntities es).2.Placed := by
  rw [newEntities_eq]
  intro e he
  rcases List.mem_append.mp he with he | he
  · exact h e he
  · obtain ⟨e', hmem, rfl⟩ := List.mem_map.mp he
    have hnone : e'.named.machine = none := hes e' hmem
    simp [hnone]

theorem placed_modifyEntity {ws : Workspace} (r : EntityRef) (f : Entity → Entity)
    (hf : ∀ n ∈ (f (ws.entity r)).machine, n.index < ws.machines.length) (h : ws.Placed) :
    (ws.modifyEntity r f).Placed := by
  rw [placed_iff] at h ⊢
  intro s n hs
  by_cases hknown : r.index < ws.entities.length
  · by_cases hsr : s = r
    · rw [hsr, entity_modifyEntity_self ws r f hknown] at hs
      exact hf n hs
    · rw [entity_modifyEntity_ne ws r s f hsr] at hs
      exact h s n hs
  · rw [modifyEntity, List.modify_eq_self (Nat.le_of_not_lt hknown)] at hs
    exact h s n hs

theorem placed_modifyMachine {ws : Workspace} (m : MachineRef) (f : Machine → Machine) (h : ws.Placed) :
    (ws.modifyMachine m f).Placed := by
  rw [Placed, modifyMachine, List.length_modify]
  exact h

theorem length_machines_founding (ws : Workspace) (head : Head) :
    (ws.founding head).machines.length = ws.machines.length + 1 := List.length_append

theorem placed_founding {ws : Workspace} (head : Head) (h : ws.Placed) : (ws.founding head).Placed := by
  intro e he n hn
  rw [length_machines_founding]
  rcases List.mem_append.mp he with he | he
  · exact Nat.lt_succ_of_lt (h e he n hn)
  · rw [List.mem_singleton.mp he] at hn
    rw [← Option.some.inj hn]
    exact Nat.lt_succ_self _

theorem placed_newMachine {ws : Workspace} (head : Head) (h : ws.Placed) : (ws.newMachine head).1.Placed := by
  rcases newMachine_cases ws head with ⟨fault, hmade, _⟩ | ⟨_, _, hmade⟩
  · rw [hmade]
    exact h
  · rw [hmade]
    exact placed_founding head h

/-! ## Taking over -/

section
variable {ws : Workspace} {m : MachineRef} (hm : m.index < ws.machines.length) (h : ws.Placed)
include hm h

theorem placed_taking (r : EntityRef) : (ws.taking m r).Placed := by
  refine placed_modifyEntity r _ ?_ (placed_modifyMachine m _ h)
  rintro n ⟨rfl⟩
  rwa [modifyMachine, List.length_modify]

theorem placed_takingAll (refs : List EntityRef) : (ws.takingAll m refs).Placed := by
  induction refs generalizing ws with
  | nil => exact h
  | cons r rest ih => exact ih (by rwa [length_machines_taking]) (placed_taking hm h r)

/-- Adding takes entities over, up to the first that is refused. -/
theorem placed_add (things : List Candidate) :
    (ws.add m things).1.Placed ∧ (ws.add m things).1.machines.length = ws.machines.length := by
  induction things generalizing ws with
  | nil => exact ⟨h, rfl⟩
  | cons c rest ih =>
    cases hc : ws.refusal? m c with
    | some fault =>
      rw [add, addOne_refused ws m c fault hc]
      exact ⟨h, rfl⟩
    | none =>
      cases c with
      | foreign typeName => simp [refusal?] at hc
      | entity r =>
        rw [add, addOne_taken ws m r hc]
        obtain ⟨hplaced, hlength⟩ := ih (by rwa [length_machines_taking]) (placed_taking hm h r)
        exact ⟨hplaced, hlength.trans (length_machines_taking ws m r)⟩

end

theorem placed_build {ws : Workspace} (data : Dict) (source : String) (validate : Bool) (h : ws.Placed) :
    (Description.build ws data source validate).1.Placed := by
  rcases Description.build_cases ws data source validate with ⟨fault, hbuild⟩ | ⟨head, hmade, hbuild⟩
  · rw [hbuild]
    exact h
  · have hfounded := placed_newMachine head h
    rw [hmade] at hfounded
    have hlast : ws.machines.length < (ws.founding head).machines.length := by
      rw [length_machines_founding]
      exact Nat.lt_succ_self _
    have hfilled := Description.addSections_preserves
      (P := fun ws' => ws'.Placed ∧ ws.machines.length < ws'.machines.length) ⟨ws.machines.length⟩ ?_ (ws.founding head)
      data source Description.Section.all ⟨hfounded, hlast⟩
    · exact placed_of_bare_eq hbuild hfilled.1
    · rintro ws' e he ⟨hplaced, hlast⟩
      have hadded := @placed_add (ws'.newEntity e).2 ⟨ws.machines.length⟩ hlast
        (placed_newEntity e (by simp [he]) hplaced) [.entity (ws'.newEntity e).1]
      exact ⟨hadded.1, hadded.2 ▸ hlast⟩

theorem placed_stocked {ws : Workspace} (m : MachineRef) (arcs : List FiringArc) (h : ws.Placed) :
    (ws.stocked m arcs).Placed := by
  refine placed_newEntities _ ?_ (placed_founding _ h)
  intro e he
  obtain ⟨a, _, rfl⟩ := List.mem_map.mp he
  rfl

/-- Even if it fails, an extraction gives entities to the new machine only. -/
theorem placed_extract {ws : Workspace} (m : MachineRef) (specifiers : List String) (hc : ws.Consistent)
    (hm : m.index < ws.machines.length) (h : ws.Placed) : (ws.extract m specifiers).1.Placed := by
  cases hselected : ws.matchingEvents m specifiers with
  | error fault => rwa [extract, hselected]
  | ok events =>
    obtain ⟨touched, ready, _, rfl, _, hending⟩ := ending_extract ws m specifiers events hc hm hselected
    have hready := placed_of_bare_eq (ready_surveyed ws m specifiers events touched).bare_eq h
    have hstocked := placed_stocked m (ws.collectArcs m events).1 hready
    have htaking := placed_takingAll (nextMachine_lt_stocked _ m (ws.collectArcs m events).1) hstocked
    generalize ws.extract m specifiers = result at hending ⊢
    cases hending with
    | refused => exact hready
    | stuck _ before => exact htaking before
    | made => exact htaking _

/-! ## Runs -/

/-- The operation names no machine but those that are there. -/
def Grounded (ws : Workspace) : Operation → Prop
  | .make e => ∀ n ∈ e.machine, n.index < ws.machines.length
  | .edit r change => ∀ n ∈ (change.apply (ws.entity r)).machine, n.index < ws.machines.length
  | .add m _ => m.index < ws.machines.length
  | .extract m _ => m.index < ws.machines.length
  | _ => True

theorem placed_perform (ws : Workspace) (operation : Operation) (hc : ws.Consistent) (hg : ws.Grounded operation)
    (h : ws.Placed) : (ws.perform operation).Placed := by
  cases operation with
  | make e => exact placed_newEntity e hg h
  | start head => exact placed_newMachine head h
  | build data source validate => exact placed_build data source validate h
  | add m things => exact (placed_add hg h things).1
  | edit r change => exact placed_modifyEntity r _ hg h
  | editHead m change => exact placed_modifyMachine m _ h
  | setMessage m message =>
    rw [perform, setMessage]
    split
    · exact h
    · exact placed_modifyMachine m _ h
  | report m d => exact placed_of_bare_eq (bare_report ws m d) h
  | renumber m => exact placed_of_bare_eq (bare_renumber ws m) h
  | assertValid m => exact placed_of_bare_eq (bare_assertValid ws m) h
  | resolve m eventId raw => exact placed_of_bare_eq (bare_arcsForEvent ws m eventId raw) h
  | extract m specifiers => exact placed_extract m specifiers hc hg h
  | render m => exact placed_of_bare_eq (bare_render ws m) h
  | setJournal journal => exact h

/-- Each operation of the run names no machine but those that are there by then. -/
def GroundedRun (ws : Workspace) : List Operation → Prop
  | [] => True
  | operation :: rest => ws.Grounded operation ∧ (ws.perform operation).GroundedRun rest

theorem placed_run (ws : Workspace) (operations : List Operation) (hc : ws.Consistent)
    (hg : ws.GroundedRun operations) (h : ws.Placed) : (operations.foldl perform ws).Placed := by
  induction operations generalizing ws with
  | nil => exact h
  | cons operation rest ih =>
    exact ih _ (consistent_perform ws operation hc) hg.2 (placed_perform ws operation hc hg.1 h)

end Workspace

end StateMachine
