import StateMachine.Proofs.Placing

/-!
# Ids that stay

Every operation comes down to a few steps: an entity is made, a machine is started, a machine takes an entity over, or
nothing changes but numbers, warnings and the journal. What each step preserves is preserved by additions, extractions
and building. So entities keep the ids under which they were registered, as long as nobody gives them other ones.
-/

namespace StateMachine

namespace Workspace

/-! ## Step by step -/

/-- A property that no step can break. -/
structure Preserved (P : Workspace → Prop) : Prop where
  bare : ∀ ws ws' : Workspace, ws'.bare = ws.bare → P ws → P ws'
  make : ∀ ws e, P ws → P (ws.newEntity e).2
  found : ∀ ws head, head.id ≠ some allStateId →
    (∀ text, head.ownMessage = some text → checkMessage text = .ok ()) → P ws → P (ws.founding head)
  take : ∀ ws m r, ws.refusal? m (.entity r) = none → P ws → P (ws.taking m r)

namespace Preserved

variable {P : Workspace → Prop} (hP : Preserved P) {ws : Workspace} (h : P ws)
include hP h

theorem add (m : MachineRef) (things : List Candidate) : P (ws.add m things).1 := by
  induction things generalizing ws with
  | nil => exact h
  | cons c rest ih =>
    cases hc : ws.refusal? m c with
    | some fault =>
      rw [Workspace.add, addOne_refused ws m c fault hc]
      exact h
    | none =>
      cases c with
      | foreign typeName => simp [refusal?] at hc
      | entity r =>
        rw [Workspace.add, addOne_taken ws m r hc]
        exact ih (hP.take ws m r hc h)

theorem newEntities (es : List Entity) : P (ws.newEntities es).2 := by
  induction es generalizing ws with
  | nil => exact h
  | cons e rest ih => exact ih (hP.make ws e h)

theorem newMachine (head : Head) : P (ws.newMachine head).1 := by
  rcases newMachine_cases ws head with ⟨fault, heq, _⟩ | ⟨hid, hlegal, heq⟩
  · rw [heq]
    exact h
  · rw [heq]
    exact hP.found ws head hid hlegal h

theorem assemble (m : MachineRef) (events states : List EntityRef) (arcs : List FiringArc) :
    P (ws.assemble m events states arcs).1 := by
  have hfounded := hP.newMachine h (Head.copied (ws.machine m).head)
  rcases assemble_cases ws m events states arcs with ⟨fault, _, heq⟩ | ⟨hmade, heq⟩
  · rw [heq]
    exact h
  · rw [hmade] at hfounded
    rw [heq]
    exact hP.add (hP.newEntities hfounded _) _ _

theorem extract (m : MachineRef) (specifiers : List String) : P (ws.extract m specifiers).1 := by
  rcases extract_cases ws m specifiers with ⟨fault, _, heq⟩ | ⟨events, ready, _, hready, hrest⟩
  · rw [heq]
    exact h
  · have hsurveyed := hP.bare ws ready hready.bare_eq h
    rcases hrest with ⟨fault, _, heq⟩ | ⟨touched, _, heq⟩
    · rw [heq]
      exact hsurveyed
    · have hmade := hP.assemble hsurveyed m events (ready.byNumber touched) (ws.collectArcs m events).1
      rw [heq]
      rcases finish_cases ready m events touched (ws.collectArcs m events).1 with
        ⟨fault, _, heq⟩ | ⟨clone, journal, _, heq⟩
      · rw [heq]
        exact hmade
      · rw [heq]
        exact hP.bare (ready.assemble m events (ready.byNumber touched) (ws.collectArcs m events).1).1 _ rfl hmade

theorem build (data : Dict) (source : String) (validate : Bool) :
    P (Description.build ws data source validate).1 := by
  rcases Description.build_cases ws data source validate with ⟨fault, hbuild⟩ | ⟨head, hmade, hbuild⟩
  · rw [hbuild]
    exact h
  · have hfounded := hP.newMachine h head
    rw [hmade] at hfounded
    refine hP.bare _ _ hbuild (Description.addSections_preserves _ ?_ _ _ _ _ hfounded)
    exact fun ws' e _ h' => hP.add (hP.make ws' e h') _ _

/-- What no step can break is kept by every operation that does not change an entity or a head. -/
theorem perform (operation : Operation)
    (hedit : ∀ r change, operation = .edit r change → P (ws.modifyEntity r change.apply))
    (hhead : ∀ m change, operation = .editHead m change →
      P (ws.modifyMachine m fun x => { x with head := change.apply x.head }))
    (hmessage : ∀ m message, operation = .setMessage m message → P (ws.setMessage m message).1) :
    P (ws.perform operation) := by
  cases operation with
  | make e => exact hP.make ws e h
  | start head => exact hP.newMachine h head
  | build data source validate => exact hP.build h data source validate
  | add m things => exact hP.add h m things
  | edit r change => exact hedit r change rfl
  | editHead m change => exact hhead m change rfl
  | setMessage m message => exact hmessage m message rfl
  | report m d => exact hP.bare _ _ (bare_report ws m d) h
  | renumber m => exact hP.bare _ _ (bare_renumber ws m) h
  | assertValid m => exact hP.bare _ _ (bare_assertValid ws m) h
  | resolve m eventId raw => exact hP.bare _ _ (bare_arcsForEvent ws m eventId raw) h
  | extract m specifiers => exact hP.extract h m specifiers
  | render m => exact hP.bare _ _ (bare_render ws m) h
  | setJournal journal => exact hP.bare ws _ rfl h

end Preserved

/-- No machine is ever lost. -/
theorem preserved_length (n : Nat) : Preserved fun ws => n ≤ ws.machines.length where
  bare := fun _ _ heq h => by rwa [length_machines_of_bare_eq heq]
  make := fun _ _ h => h
  found := fun ws head _ _ h => by
    rw [length_machines_founding]
    exact Nat.le_succ_of_le h
  take := fun ws m r _ h => by rwa [length_machines_taking]

/-! ## Machines that are there -/

section
variable (ws : Workspace)

theorem machine_of_not_lt (m : MachineRef) (h : ¬ m.index < ws.machines.length) : ws.machine m = default := by
  rw [machine_eq, List.getElem?_eq_none (Nat.le_of_not_lt h)]
  rfl

theorem known_of_mem_entries (hc : ws.Consistent) (m : MachineRef) (entry : String × EntityRef)
    (h : entry ∈ (ws.machine m).registry.entries) : entry.2.index < ws.entities.length := by
  by_cases hm : m.index < ws.machines.length
  · exact (hc.machine m hm).known entry h
  · rw [machine_of_not_lt ws m hm] at h
    cases h

theorem machines_founding (head : Head) : (ws.founding head).machines = ws.machines ++
    [⟨head, { reserved := head.id, entries := [(allStateId, ⟨ws.entities.length⟩)] }, ⟨ws.entities.length⟩,
      fun _ => [], []⟩] := rfl

theorem machine_founding_ne (head : Head) (n : MachineRef) (h : n ≠ ws.nextMachine) :
    (ws.founding head).machine n = ws.machine n := by
  by_cases hn : n.index < ws.machines.length
  · rw [machine_eq, machines_founding, List.getElem?_append_left hn, machine_eq]
  · have hne : n.index ≠ ws.machines.length := fun heq => h (MachineRef.eq_of_index heq)
    rw [machine_of_not_lt ws n hn, machine_of_not_lt]
    rw [length_machines_founding]
    omega

theorem machine_founding_next (head : Head) : (ws.founding head).machine ws.nextMachine =
    ⟨head, { reserved := head.id, entries := [(allStateId, ⟨ws.entities.length⟩)] }, ⟨ws.entities.length⟩,
      fun _ => [], []⟩ := by
  rw [machine_eq, machines_founding, nextMachine, List.getElem?_append_right (Nat.le_refl _)]
  simp

theorem machine_modifyMachine_cases (m : MachineRef) (f : Machine → Machine) (n : MachineRef) :
    (ws.modifyMachine m f).machine n = ws.machine n ∨ (ws.modifyMachine m f).machine n = f (ws.machine n) ∧ n = m := by
  by_cases hn : n = m
  · subst hn
    by_cases hlt : n.index < ws.machines.length
    · exact Or.inr ⟨machine_modifyMachine_self ws n f hlt, rfl⟩
    · left
      rw [machine_of_not_lt ws n hlt, machine_of_not_lt]
      rwa [modifyMachine, List.length_modify]
  · exact Or.inl (machine_modifyMachine_ne ws m n f hn)

theorem registry_of_bare_eq {ws ws' : Workspace} (h : ws'.bare = ws.bare) (m : MachineRef) :
    (ws'.machine m).registry = (ws.machine m).registry := by
  have heq := congrArg Machine.registry (unwarned_of_bare_eq h m)
  exact heq

end

/-! ## Ids -/

/-- Every machine has the id that it was started with, and all its entities have those under which they were
registered. -/
def Steady (ws : Workspace) : Prop :=
  ∀ m, (ws.machine m).head.id = (ws.machine m).registry.reserved ∧ ws.Named m

theorem steady_empty (journal : Journal) : Steady { journal } := by
  intro m
  have hnone : Workspace.machine { journal } m = default := machine_of_not_lt _ m (Nat.not_lt_zero _)
  rw [Named, hnone]
  exact ⟨rfl, fun entry he => by cases he⟩

theorem steady_of_bare_eq {ws ws' : Workspace} (h : ws'.bare = ws.bare) (hs : ws.Steady) : ws'.Steady := by
  intro m
  obtain ⟨hown, hn⟩ := hs m
  refine ⟨by rw [head_of_bare_eq h, registry_of_bare_eq h, hown], ?_⟩
  rw [Named, registry_of_bare_eq h]
  intro entry he
  rw [id_entity_of_bare_eq h, hn entry he]

/-- Where the machines stay, and registered entities keep their ids, all stay steady. -/
theorem steady_of_ids {ws ws' : Workspace} (hs : ws.Steady) (hmachines : ∀ m, ws'.machine m = ws.machine m)
    (hids : ∀ m, ∀ entry ∈ (ws.machine m).registry.entries, (ws'.entity entry.2).id = (ws.entity entry.2).id) :
    ws'.Steady := by
  intro m
  obtain ⟨hown, hn⟩ := hs m
  rw [Named, hmachines]
  exact ⟨hown, fun entry he => by rw [hids m entry he, hn entry he]⟩

theorem steady_newEntity {ws : Workspace} (e : Entity) (hc : ws.Consistent) (hs : ws.Steady) :
    (ws.newEntity e).2.Steady := by
  refine steady_of_ids hs (fun m => rfl) fun m entry he => ?_
  rw [entity_newEntity_old ws e entry.2 (known_of_mem_entries ws hc m entry he)]

theorem steady_founding {ws : Workspace} (head : Head) (hc : ws.Consistent) (hs : ws.Steady) :
    (ws.founding head).Steady := by
  intro m
  by_cases hm : m = ws.nextMachine
  · subst hm
    rw [Named, machine_founding_next]
    refine ⟨rfl, fun entry he => ?_⟩
    rw [List.mem_singleton.mp he]
    exact congrArg Entity.id (entity_newEntity_new ws ws.nextAllState)
  · obtain ⟨hown, hn⟩ := hs m
    rw [Named, machine_founding_ne ws head m hm]
    refine ⟨hown, fun entry he => ?_⟩
    rw [entity_founding_old ws head entry.2 (known_of_mem_entries ws hc m entry he), hn entry he]

theorem steady_taking {ws : Workspace} (m : MachineRef) (r : EntityRef) (hs : ws.Steady) : (ws.taking m r).Steady := by
  intro n
  obtain ⟨hown, hn⟩ := hs n
  have hcases : (ws.taking m r).machine n = _ ∨ (ws.taking m r).machine n = _ ∧ n = m :=
    machine_modifyMachine_cases ws m (fun x => x.enroll (ws.entity r).id (ws.kindOf r) r) n
  rw [Named]
  rcases hcases with heq | ⟨heq, _⟩
  · rw [heq]
    exact ⟨hown, fun entry he => by rw [id_taking, hn entry he]⟩
  · rw [heq]
    refine ⟨hown, fun entry he => ?_⟩
    rw [id_taking]
    rcases List.mem_append.mp he with he | he
    · exact hn entry he
    · rw [List.mem_singleton.mp he]

theorem preserved_steady : Preserved fun ws => ws.Consistent ∧ ws.Steady where
  bare := fun _ _ heq h => ⟨consistent_of_bare_eq heq h.1, steady_of_bare_eq heq h.2⟩
  make := fun ws e h => ⟨consistent_newEntity ws e h.1, steady_newEntity e h.1 h.2⟩
  found := fun ws head hid hlegal h => ⟨consistent_founding ws head hid hlegal h.1, steady_founding head h.1 h.2⟩
  take := fun ws m r hfree h => ⟨consistent_taking ws m r hfree h.1, steady_taking m r h.2⟩

/-! ## Runs that keep ids -/

/-- The operation gives no other id to a machine, or to an entity that is registered in one. -/
def KeepsIds (ws : Workspace) : Operation → Prop
  | .edit r change => ∀ x ∈ ws.machines, r ∈ x.registry.entities → (change.apply (ws.entity r)).id = (ws.entity r).id
  | .editHead m change => (change.apply (ws.machine m).head).id = (ws.machine m).head.id
  | _ => True

/-- No operation of the run gives other ids to what is registered by then. -/
def KeepsIdsRun (ws : Workspace) : List Operation → Prop
  | [] => True
  | operation :: rest => ws.KeepsIds operation ∧ (ws.perform operation).KeepsIdsRun rest

instance (ws : Workspace) : (operation : Operation) → Decidable (ws.KeepsIds operation)
  | .edit r change => inferInstanceAs (Decidable (∀ x ∈ ws.machines, r ∈ x.registry.entities →
      (change.apply (ws.entity r)).id = (ws.entity r).id))
  | .editHead m change => inferInstanceAs (Decidable ((change.apply (ws.machine m).head).id = (ws.machine m).head.id))
  | .make _ | .start _ | .build .. | .add .. | .setMessage .. | .report .. | .renumber _ | .assertValid _
  | .resolve .. | .extract .. | .render _ | .setJournal _ => isTrue trivial

/-- By recursion on the run, as the property itself. -/
instance decidableKeepsIdsRun (ws : Workspace) : (operations : List Operation) → Decidable (ws.KeepsIdsRun operations)
  | [] => isTrue trivial
  | operation :: rest =>
    have := decidableKeepsIdsRun (ws.perform operation) rest
    inferInstanceAs (Decidable (ws.KeepsIds operation ∧ (ws.perform operation).KeepsIdsRun rest))

theorem steady_edit {ws : Workspace} (r : EntityRef) (change : Change) (hc : ws.Consistent)
    (hkeeps : ws.KeepsIds (.edit r change)) (hs : ws.Steady) : (ws.modifyEntity r change.apply).Steady := by
  refine steady_of_ids hs (fun m => rfl) fun m entry he => ?_
  -- What is registered somewhere keeps its id by assumption; any other entity is not the entry's.
  by_cases hr : entry.2 = r
  · have hm : m.index < ws.machines.length := by
      by_contra hm
      rw [machine_of_not_lt ws m hm] at he
      cases he
    have hmachine : ws.machine m ∈ ws.machines := by
      rw [machine_eq, List.getElem?_eq_getElem hm]
      exact List.getElem_mem hm
    rw [hr, entity_modifyEntity_self ws r _ (hr ▸ known_of_mem_entries ws hc m entry he)]
    exact hkeeps _ hmachine (hr ▸ List.mem_map_of_mem he)
  · rw [entity_modifyEntity_ne ws r entry.2 _ hr]

/-- A change to a machine that leaves the registry and the id of the head alone leaves all steady. -/
theorem steady_modifyMachine {ws : Workspace} (m : MachineRef) (f : Machine → Machine)
    (hregistry : (f (ws.machine m)).registry = (ws.machine m).registry)
    (hid : (f (ws.machine m)).head.id = (ws.machine m).head.id) (hs : ws.Steady) : (ws.modifyMachine m f).Steady := by
  intro n
  obtain ⟨hown, hnamed⟩ := hs n
  rw [Named]
  rcases machine_modifyMachine_cases ws m f n with heq | ⟨heq, rfl⟩
  · rw [heq]
    exact ⟨hown, hnamed⟩
  · rw [heq, hregistry, hid]
    exact ⟨hown, hnamed⟩

theorem steady_perform {ws : Workspace} (operation : Operation) (hkeeps : ws.KeepsIds operation)
    (hc : ws.Consistent) (hs : ws.Steady) : (ws.perform operation).Steady := by
  have hafter := consistent_perform ws operation hc
  refine (preserved_steady.perform ⟨hc, hs⟩ operation ?_ ?_ ?_).2
  · rintro r change rfl
    exact ⟨hafter, steady_edit r change hc hkeeps hs⟩
  · rintro m change rfl
    exact ⟨hafter, steady_modifyMachine m _ rfl hkeeps hs⟩
  · rintro m message rfl
    refine ⟨hafter, ?_⟩
    rw [setMessage]
    split
    · exact hs
    · exact steady_modifyMachine m _ rfl rfl hs

theorem steady_run {ws : Workspace} (operations : List Operation) (hkeeps : ws.KeepsIdsRun operations)
    (hc : ws.Consistent) (hs : ws.Steady) : (operations.foldl perform ws).Steady := by
  induction operations generalizing ws with
  | nil => exact hs
  | cons operation rest ih =>
    exact ih hkeeps.2 (consistent_perform ws operation hc) (steady_perform operation hkeeps.1 hc hs)

end Workspace

end StateMachine
