import StateMachine.Proofs.Preserving

/-!
# What was added

A machine registers what it is asked to take and does not refuse, one after the other, and forgets nothing. So what it
registers can be read off the operations of a run.
-/

namespace StateMachine

namespace Workspace

/-! ## Additions -/

/-- What a machine takes over of the things it is asked to: the entities before the first thing that it refuses. -/
def accepted (ws : Workspace) (m : MachineRef) : List Candidate → List EntityRef
  | [] => []
  | .foreign _ :: _ => []
  | .entity r :: rest =>
    match ws.addOne m (.entity r) with
    | (_, .error _) => []
    | (ws, .ok ()) => r :: ws.accepted m rest

theorem accepted_refused (ws : Workspace) (m : MachineRef) (c : Candidate) (rest : List Candidate) (fault : Fault)
    (h : ws.refusal? m c = some fault) : ws.accepted m (c :: rest) = [] := by
  cases c with
  | foreign typeName => rfl
  | entity r => rw [accepted, addOne_refused ws m _ fault h]

theorem accepted_taken (ws : Workspace) (m : MachineRef) (r : EntityRef) (rest : List Candidate)
    (h : ws.refusal? m (.entity r) = none) :
    ws.accepted m (.entity r :: rest) = r :: (ws.taking m r).accepted m rest := by
  rw [accepted, addOne_taken ws m r h]

/-- An addition takes over what is accepted, also if it fails. -/
theorem fst_add (ws : Workspace) (m : MachineRef) (things : List Candidate) :
    (ws.add m things).1 = ws.takingAll m (ws.accepted m things) := by
  -- What the machine has taken over by then decides what it accepts next, so the workspace is general.
  induction things generalizing ws with
  | nil => rfl
  | cons c rest ih =>
    cases hc : ws.refusal? m c with
    | some fault =>
      rw [add, addOne_refused ws m c fault hc, accepted_refused ws m c rest fault hc]
      rfl
    | none =>
      cases c with
      | foreign typeName => simp [refusal?] at hc
      | entity r =>
        rw [add, addOne_taken ws m r hc, accepted_taken ws m r rest hc]
        exact ih (ws.taking m r)

/-- What is accepted are the first things of the list, and all of them if the addition succeeds. -/
theorem accepted_initial (ws : Workspace) (m : MachineRef) (things : List Candidate) :
    (ws.accepted m things).map .entity <+: things ∧
      ((ws.add m things).2 = .ok () → (ws.accepted m things).map .entity = things) := by
  induction things generalizing ws with
  | nil => exact ⟨List.nil_prefix, fun _ => rfl⟩
  | cons c rest ih =>
    cases hc : ws.refusal? m c with
    | some fault =>
      rw [add, addOne_refused ws m c fault hc, accepted_refused ws m c rest fault hc]
      exact ⟨List.nil_prefix, fun h => by cases h⟩
    | none =>
      cases c with
      | foreign typeName => simp [refusal?] at hc
      | entity r =>
        obtain ⟨hfirst, hall⟩ := ih (ws.taking m r)
        rw [add, addOne_taken ws m r hc, accepted_taken ws m r rest hc, List.map_cons]
        exact ⟨(List.prefix_cons_inj _).mpr hfirst, fun h => congrArg _ (hall h)⟩

/-! ## Machines after additions -/

/-- What was added to a machine, in order. -/
def joined (ws : Workspace) (m : MachineRef) : List EntityRef := (ws.machine m).added.map (·.2)

theorem joined_congr {ws ws' : Workspace} {m : MachineRef}
    (h : (ws'.machine m).registry = (ws.machine m).registry) : ws'.joined m = ws.joined m := by
  rw [joined, Machine.added, h, joined, Machine.added]

theorem joined_of_bare_eq {ws ws' : Workspace} (h : ws'.bare = ws.bare) (m : MachineRef) :
    ws'.joined m = ws.joined m := joined_congr (registry_of_bare_eq h m)

section
variable (ws : Workspace) (m : MachineRef)

theorem joined_of_not_lt (h : ¬ m.index < ws.machines.length) : ws.joined m = [] := by
  rw [joined, machine_of_not_lt ws m h]
  rfl

theorem joined_nextMachine : ws.joined ws.nextMachine = [] := joined_of_not_lt ws _ (Nat.lt_irrefl _)

theorem joined_takingAll (refs : List EntityRef) (hm : m.index < ws.machines.length)
    (hsome : (ws.machine m).registry.entries ≠ []) : (ws.takingAll m refs).joined m = ws.joined m ++ refs := by
  rw [joined, Machine.added, machine_takingAll_self ws m refs hm, List.tail_append_of_ne_nil hsome, List.map_append,
    List.map_map, joined, Machine.added]
  exact congrArg _ (List.map_id refs)

theorem joined_takingAll_ne (n : MachineRef) (refs : List EntityRef) (h : m ≠ n) :
    (ws.takingAll n refs).joined m = ws.joined m :=
  joined_congr (by rw [machine_takingAll_ne ws n refs m h])

theorem joined_founding (head : Head) : (ws.founding head).joined m = ws.joined m := by
  by_cases h : m = ws.nextMachine
  · rw [h, joined_nextMachine, joined, machine_founding_next]
    rfl
  · exact joined_congr (by rw [machine_founding_ne ws head m h])

theorem joined_stocked (n : MachineRef) (arcs : List FiringArc) : (ws.stocked n arcs).joined m = ws.joined m := by
  rw [← joined_founding ws m (ws.headFor n)]
  refine joined_congr ?_
  rw [stocked, withCopies, newEntities_eq]
  rfl

theorem joined_modifyMachine (n : MachineRef) (f : Machine → Machine) (h : ∀ x, (f x).registry = x.registry) :
    (ws.modifyMachine n f).joined m = ws.joined m := by
  refine joined_congr ?_
  rcases machine_modifyMachine_cases ws n f m with heq | ⟨heq, _⟩
  · rw [heq]
  · rw [heq, h]

end

/-! ## Extractions -/

/-- What an extraction adds to the machine that it makes, if it makes one. -/
def carried (ws : Workspace) (m : MachineRef) (specifiers : List String) : List EntityRef :=
  match ws.matchingEvents m specifiers with
  | .error _ => []
  | .ok events =>
    let arcs := (ws.collectArcs m events).1
    match ws.touchedStates arcs with
    | .error _ => []
    | .ok touched =>
      let ready := ws.surveyed m specifiers events touched
      match (ready.newMachine (ready.headFor m)).2 with
      | .error _ => []
      | .ok clone =>
        (ready.stocked m arcs).accepted clone ((ready.batch m events (ready.byNumber touched) arcs).map .entity)

theorem joined_assemble (ws : Workspace) (m n : MachineRef) (events states : List EntityRef) (arcs : List FiringArc) :
    (ws.assemble n events states arcs).1.joined m = ws.joined m ++
      if m = ws.nextMachine then
        match (ws.newMachine (ws.headFor n)).2 with
        | .error _ => []
        | .ok clone => (ws.stocked n arcs).accepted clone ((ws.batch n events states arcs).map .entity)
      else [] := by
  have hhead : Head.copied (ws.machine n).head = ws.headFor n := rfl
  have hstages := assemble_cases ws n events states arcs
  rw [hhead] at hstages
  rcases hstages with ⟨fault, hmade, heq⟩ | ⟨hmade, heq⟩
  · rw [heq, hmade, ite_self, List.append_nil]
  · rw [heq, hmade, fst_add, ← nextMachine]
    dsimp only
    by_cases hm : m = ws.nextMachine
    · rw [if_pos hm, hm, joined_takingAll _ _ _ (nextMachine_lt_stocked ws n arcs), joined_stocked]
      rw [machine_stocked_new]
      exact List.cons_ne_nil _ _
    · rw [if_neg hm, joined_takingAll_ne _ _ _ _ hm, joined_stocked, List.append_nil]

theorem joined_extract (ws : Workspace) (m n : MachineRef) (specifiers : List String) :
    (ws.extract n specifiers).1.joined m =
      ws.joined m ++ if m = ws.nextMachine then ws.carried n specifiers else [] := by
  cases hselected : ws.matchingEvents n specifiers with
  | error fault => simp only [extract, carried, hselected, ite_self, List.append_nil]
  | ok events =>
    cases htouched : ws.touchedStates (ws.collectArcs n events).1 with
    | error fault =>
      simp only [carried, hselected, htouched, ite_self, List.append_nil]
      rw [extract_of_selected ws n specifiers events hselected, survey, touchedStates_gathered, htouched]
      exact joined_of_bare_eq (ready_gathered ws n specifiers events).bare_eq m
    | ok touched =>
      have hbare := (ready_surveyed ws n specifiers events touched).bare_eq
      -- Surveying makes no machine, so the new one has the place that was free before.
      have hnext : (ws.surveyed n specifiers events touched).nextMachine = ws.nextMachine := by
        rw [nextMachine, length_machines_of_bare_eq hbare, nextMachine]
      have hmade := joined_assemble (ws.surveyed n specifiers events touched) m n events
        ((ws.surveyed n specifiers events touched).byNumber touched) (ws.collectArcs n events).1
      rw [hnext, joined_of_bare_eq hbare] at hmade
      simp only [carried, hselected, htouched]
      rw [extract_of_touched ws n specifiers events touched hselected htouched, ← hmade]
      rcases finish_cases (ws.surveyed n specifiers events touched) n events touched (ws.collectArcs n events).1 with
        ⟨fault, _, heq⟩ | ⟨clone, journal, _, heq⟩
      · rw [heq]
      · rw [heq]
        rfl

/-! ## Building -/

/-- The entities from a place on that belong to a machine, in the order in which they were made. -/
def newcomers (ws : Workspace) (k : Nat) (m : MachineRef) : List EntityRef :=
  ((List.range' k (ws.entities.length - k)).map EntityRef.mk).filter fun r => (ws.entity r).machine = some m

theorem newcomers_of_bare_eq {ws ws' : Workspace} (h : ws'.bare = ws.bare) (k : Nat) (m : MachineRef) :
    ws'.newcomers k m = ws.newcomers k m := by
  have hmachine : ∀ r, (ws'.entity r).machine = (ws.entity r).machine := fun r => by
    rw [← Entity.machine_unnumbered, unnumbered_of_bare_eq h, Entity.machine_unnumbered]
  simp only [newcomers, length_entities_of_bare_eq h, hmachine]

theorem newcomers_self (ws : Workspace) (k : Nat) (m : MachineRef) (h : ws.entities.length ≤ k) :
    ws.newcomers k m = [] := by
  rw [newcomers, Nat.sub_eq_zero_of_le h]
  rfl

/-- One more entity is a newcomer if it belongs to the machine. -/
theorem newcomers_succ {ws ws' : Workspace} (k : Nat) (m : MachineRef) (hk : k ≤ ws.entities.length)
    (hlength : ws'.entities.length = ws.entities.length + 1)
    (hold : ∀ r : EntityRef, r.index < ws.entities.length → (ws'.entity r).machine = (ws.entity r).machine) :
    ws'.newcomers k m = ws.newcomers k m ++
      if (ws'.entity ⟨ws.entities.length⟩).machine = some m then [⟨ws.entities.length⟩] else [] := by
  have hsame : ((List.range' k (ws.entities.length - k)).map EntityRef.mk).filter
      (fun r => (ws'.entity r).machine = some m) = ws.newcomers k m := by
    refine List.filter_congr fun r hr => ?_
    obtain ⟨i, hi, rfl⟩ := List.mem_map.mp hr
    have hlt : i < ws.entities.length := by
      rw [List.mem_range'_1] at hi
      omega
    rw [hold ⟨i⟩ hlt]
  have hlast : k + (ws.entities.length - k) = ws.entities.length := by omega
  -- Older entities belong where they did, so only the last place is looked at.
  rw [newcomers, hlength, Nat.sub_add_comm hk, List.range'_1_concat, hlast, List.map_append, List.filter_append, hsame,
    List.map_singleton, List.filter_singleton]
  simp

/-- A machine that is being filled: it has registered the newcomers that belong to it, and other machines are as they
were. -/
structure Filling (ws : Workspace) (m : MachineRef) (k : Nat) (ws' : Workspace) : Prop where
  inRange : m.index < ws'.machines.length
  started : (ws'.machine m).registry.entries ≠ []
  grown : k ≤ ws'.entities.length
  joined_eq : ws'.joined m = ws'.newcomers k m
  others : ∀ n, n ≠ m → ws'.machine n = ws.machine n

theorem filling_founding (ws : Workspace) (head : Head) :
    Filling ws ws.nextMachine (ws.entities.length + 1) (ws.founding head) where
  inRange := by
    rw [length_machines_founding]
    exact Nat.lt_succ_self _
  started := by
    rw [machine_founding_next]
    exact List.cons_ne_nil _ _
  grown := Nat.le_of_eq (length_founding ws head).symm
  joined_eq := by
    rw [joined_founding, joined_nextMachine, newcomers_self _ _ _ (Nat.le_of_eq (length_founding ws head))]
  others := fun n hn => machine_founding_ne ws head n hn

theorem Filling.make {ws ws' : Workspace} {m : MachineRef} {k : Nat} (h : Filling ws m k ws') (e : Entity)
    (he : e.machine = none) : Filling ws m k (ws'.newEntity e).2 := by
  have hlength : (ws'.newEntity e).2.entities.length = ws'.entities.length + 1 := List.length_append
  have hnew : ((ws'.newEntity e).2.entity ⟨ws'.entities.length⟩).machine = none :=
    (congrArg Entity.machine (entity_newEntity_new ws' e)).trans he
  refine ⟨h.inRange, h.started, ?_, ?_, h.others⟩
  · rw [hlength]
    exact Nat.le_succ_of_le h.grown
  · rw [newcomers_succ k m h.grown hlength fun r hr => by rw [entity_newEntity_old ws' e r hr], hnew,
      if_neg (by simp), List.append_nil]
    exact h.joined_eq

theorem Filling.take {ws ws' : Workspace} {m : MachineRef} {k : Nat} (h : Filling ws m k ws') (e : Entity) :
    Filling ws m k ((ws'.newEntity e).2.taking m ⟨ws'.entities.length⟩) := by
  have hlength : (ws'.newEntity e).2.entities.length = ws'.entities.length + 1 := List.length_append
  refine ⟨?_, ?_, ?_, ?_, ?_⟩
  · rw [length_machines_taking]
    exact h.inRange
  · rw [machine_taking_self (ws'.newEntity e).2 m _ h.inRange]
    exact List.append_ne_nil_of_right_ne_nil _ (List.cons_ne_nil _ _)
  · rw [length_entities_taking, hlength]
    exact Nat.le_succ_of_le h.grown
  · have hold : ∀ r : EntityRef, r.index < ws'.entities.length →
        (((ws'.newEntity e).2.taking m ⟨ws'.entities.length⟩).entity r).machine = (ws'.entity r).machine := by
      intro r hr
      have hne : r ≠ ⟨ws'.entities.length⟩ := fun heq => Nat.lt_irrefl _ (heq ▸ hr)
      rw [entity_taking_ne _ m _ r hne, entity_newEntity_old ws' e r hr]
    have hlast : (⟨ws'.entities.length⟩ : EntityRef).index < (ws'.newEntity e).2.entities.length := by
      rw [hlength]
      exact Nat.lt_succ_self _
    rw [newcomers_succ k m h.grown (by rw [length_entities_taking, hlength]) hold, entity_taking_self _ m _ hlast,
      if_pos rfl, ← h.joined_eq]
    exact joined_takingAll (ws'.newEntity e).2 m [⟨ws'.entities.length⟩] h.inRange h.started
  · intro n hn
    rw [machine_taking_ne _ m _ n hn]
    exact h.others n hn

theorem Filling.addNew {ws ws' : Workspace} {m : MachineRef} {k : Nat} (h : Filling ws m k ws') (e : Entity)
    (he : e.machine = none) :
    Filling ws m k ((ws'.newEntity e).2.add m [.entity (ws'.newEntity e).1]).1 := by
  rw [fst_add]
  cases hc : (ws'.newEntity e).2.refusal? m (.entity (ws'.newEntity e).1) with
  | some fault =>
    rw [accepted_refused _ m _ _ fault hc]
    exact h.make e he
  | none =>
    rw [accepted_taken _ m _ _ hc]
    exact h.take e

theorem joined_build (ws : Workspace) (m : MachineRef) (data : Dict) (source : String) (validate : Bool) :
    (Description.build ws data source validate).1.joined m = ws.joined m ++
      if m = ws.nextMachine then
        (Description.build ws data source validate).1.newcomers (ws.entities.length + 1) m
      else [] := by
  rcases Description.build_cases ws data source validate with ⟨fault, hbuild⟩ | ⟨head, _, hbuild⟩
  · rw [hbuild, newcomers_self _ _ _ (Nat.le_succ _), ite_self, List.append_nil]
  · have hfilled := Description.addSections_preserves (P := Filling ws ws.nextMachine (ws.entities.length + 1))
      ws.nextMachine (fun ws' e he h => h.addNew e he) (ws.founding head) data source Description.Section.all
      (filling_founding ws head)
    rw [← nextMachine] at hbuild
    rw [joined_of_bare_eq hbuild, newcomers_of_bare_eq hbuild]
    by_cases hm : m = ws.nextMachine
    · rw [if_pos hm, hm, joined_nextMachine]
      exact hfilled.joined_eq
    · rw [if_neg hm, List.append_nil]
      exact joined_congr (by rw [hfilled.others m hm])

/-! ## Runs -/

/-- What an operation adds to a machine. -/
def additions (ws : Workspace) (m : MachineRef) : Operation → List EntityRef
  | .add n things => if n = m ∧ n.index < ws.machines.length then ws.accepted n things else []
  | .extract n specifiers => if m = ws.nextMachine then ws.carried n specifiers else []
  | .build data source validate =>
    if m = ws.nextMachine then
      (ws.perform (.build data source validate)).newcomers (ws.entities.length + 1) m
    else []
  | _ => []

/-- What a run adds to a machine, in order. -/
def addedTo (ws : Workspace) (m : MachineRef) : List Operation → List EntityRef
  | [] => []
  | operation :: rest => ws.additions m operation ++ (ws.perform operation).addedTo m rest

/-- An operation adds to what a machine has registered, and takes nothing from it. -/
theorem joined_perform (ws : Workspace) (m : MachineRef) (operation : Operation) (hc : ws.Consistent) :
    (ws.perform operation).joined m = ws.joined m ++ ws.additions m operation := by
  have hbare : ∀ {ws' : Workspace}, ws'.bare = ws.bare → ws'.joined m = ws.joined m ++ [] := fun h => by
    rw [joined_of_bare_eq h, List.append_nil]
  cases operation with
  | make e => exact (List.append_nil _).symm
  | start head =>
    refine Eq.trans ?_ (List.append_nil _).symm
    rw [perform]
    rcases newMachine_cases ws head with ⟨fault, heq, _⟩ | ⟨_, _, heq⟩
    · rw [heq]
    · rw [heq, joined_founding]
  | build data source validate => exact joined_build ws m data source validate
  | add n things =>
    rw [additions, perform, fst_add]
    by_cases hn : n = m
    · subst hn
      by_cases hlt : n.index < ws.machines.length
      · rw [if_pos ⟨rfl, hlt⟩, joined_takingAll ws n _ hlt]
        exact List.ne_nil_of_mem (hc.machine n hlt).allState_mem
      · rw [if_neg fun h => hlt h.2, joined_of_not_lt ws n hlt, joined_of_not_lt]
        · rfl
        · rwa [length_machines_takingAll]
    · rw [if_neg fun h => hn h.1, joined_takingAll_ne ws m n _ (Ne.symm hn), List.append_nil]
  | edit r change => exact (List.append_nil _).symm
  | editHead n change =>
    refine Eq.trans ?_ (List.append_nil _).symm
    exact joined_modifyMachine ws m n _ fun _ => rfl
  | setMessage n message =>
    refine Eq.trans ?_ (List.append_nil _).symm
    rw [perform, setMessage]
    split
    · rfl
    · exact joined_modifyMachine ws m n _ fun _ => rfl
  | report n d => exact hbare (bare_report ws n d)
  | renumber n => exact hbare (bare_renumber ws n)
  | assertValid n => exact hbare (bare_assertValid ws n)
  | resolve n eventId raw => exact hbare (bare_arcsForEvent ws n eventId raw)
  | extract n specifiers => exact joined_extract ws m n specifiers
  | render n => exact hbare (bare_render ws n)
  | setJournal journal => exact (List.append_nil _).symm

/-- After a run a machine has registered what it had before, and then what the run added. -/
theorem joined_run (ws : Workspace) (m : MachineRef) (operations : List Operation) (hc : ws.Consistent) :
    (operations.foldl perform ws).joined m = ws.joined m ++ ws.addedTo m operations := by
  induction operations generalizing ws with
  | nil => exact (List.append_nil _).symm
  | cons operation rest ih =>
    rw [List.foldl_cons, ih _ (consistent_perform ws operation hc), joined_perform ws m operation hc, addedTo,
      List.append_assoc]

/-- After a run that starts from nothing, a machine has registered what the run added to it. -/
theorem joined_run_start (journal : Journal) (m : MachineRef) (operations : List Operation) :
    (operations.foldl perform { journal }).joined m = addedTo { journal } m operations := by
  rw [joined_run _ m operations (consistent_empty journal), joined_of_not_lt { journal } m (Nat.not_lt_zero _),
    List.nil_append]

end Workspace

end StateMachine
