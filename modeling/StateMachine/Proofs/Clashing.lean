import StateMachine.Proofs.Cloning
import StateMachine.Proofs.Endpoints
import StateMachine.Proofs.Operations
import StateMachine.Proofs.Selecting

/-!
# When an extraction fails

Nothing but an id that the new machine would give out twice can stop an extraction. In a machine whose arcs and names
are in order, that id is the one of an arc derived for a state.
-/

namespace StateMachine.Workspace

/-! ## Ids that are given out twice -/

/-- All ids of the new machine: its own, `#ALL`, and those of its entities. -/
def names (ws : Workspace) (m : MachineRef) (events states : List EntityRef) (arcs : List FiringArc) : List String :=
  (ws.machine m).head.id.toList ++ allStateId :: ws.wanted m events states arcs

theorem nodup_reserved_iff (reserved : Option String) (ids : List String) :
    (reserved.toList ++ allStateId :: ids).Nodup ↔
      reserved ≠ some allStateId ∧ (allStateId :: ids).Nodup ∧ ∀ id ∈ ids, reserved ≠ some id := by
  cases reserved with
  | none => simp
  | some own =>
    simp only [Option.toList_some, List.singleton_append, List.nodup_cons, List.mem_cons, not_or, ne_eq,
      Option.some.injEq]
    constructor
    · rintro ⟨⟨hall, hown⟩, hrest⟩
      exact ⟨hall, hrest, fun id hid heq => hown (heq ▸ hid)⟩
    · rintro ⟨hall, hrest, hown⟩
      exact ⟨⟨hall, fun hmem => hown own hmem rfl⟩, hrest⟩

theorem nodup_names_iff (ws : Workspace) (m : MachineRef) (events states : List EntityRef) (arcs : List FiringArc) :
    (ws.names m events states arcs).Nodup ↔ (ws.machine m).head.id ≠ some allStateId ∧
      (allStateId :: ws.wanted m events states arcs).Nodup ∧
        ∀ id ∈ ws.wanted m events states arcs, (ws.machine m).head.id ≠ some id :=
  nodup_reserved_iff _ _

/-- The message that is read is a machine's own one, or the default. -/
theorem Head.message_cases (h : Head) :
    (h.ownMessage = some h.message ∧ h.message ≠ "") ∨ h.message = defaultMessage := by
  rw [Head.message]
  cases h.ownMessage with
  | none => exact Or.inr rfl
  | some own =>
    rw [stated?]
    split
    case isTrue => exact Or.inr rfl
    case isFalse hempty => exact Or.inl ⟨rfl, fun h => hempty (String.isEmpty_iff.mpr h)⟩

theorem Head.message_legal (head : Head) (h : ∀ text, head.ownMessage = some text → checkMessage text = .ok ()) :
    checkMessage head.message = .ok () := by
  have hdefault : (checkMessage defaultMessage).toOption = some () := by decide +kernel
  rcases Head.message_cases head with ⟨hown, -⟩ | hmessage
  · exact h _ hown
  · rw [hmessage]
    exact ok_of_toOption hdefault

theorem message_copied_legal (head : Head)
    (h : ∀ text, head.ownMessage = some text → checkMessage text = .ok ()) :
    ∀ text, (Head.copied head).ownMessage = some text → checkMessage text = .ok () := by
  intro text htext
  rw [← Option.some.inj htext]
  exact Head.message_legal head h

theorem two_le_count (own : Option String) (before after : List String) (id : String)
    (h : id = allStateId ∨ id ∈ before ∨ own = some id) :
    2 ≤ (own.toList ++ allStateId :: (before ++ id :: after)).count id := by
  rw [List.count_append, List.count_cons, List.count_append, List.count_cons_self]
  rcases h with rfl | h | rfl
  · rw [beq_self_eq_true, if_pos rfl]
    omega
  · have := List.count_pos_iff.mpr h
    omega
  · rw [Option.toList_some, List.count_singleton_self]
    omega

/-! ## The new machine -/

section
variable {ws : Workspace} {m : MachineRef} {events states : List EntityRef} {arcs : List FiringArc}
  (p : Parts ws m events states arcs)
include p

/-- The new machine is made, unless its own id is the one of its state `#ALL`. -/
theorem newMachine_headFor_cases :
    ((ws.machine m).head.id = some allStateId ∧ ws.newMachine (ws.headFor m) =
      (ws, .error (.duplicateIdentifier allStateId "machine" "state" (ws.machine m).head.id))) ∨
    ((ws.machine m).head.id ≠ some allStateId ∧
      ws.newMachine (ws.headFor m) = (ws.founding (ws.headFor m), .ok ws.nextMachine)) := by
  rcases newMachine_cases ws (ws.headFor m) with ⟨fault, hmade, hcause⟩ | ⟨hid, _, hmade⟩
  · left
    rcases hcause with ⟨hid, rfl⟩ | ⟨text, htext, hcheck⟩
    · exact ⟨hid, hmade⟩
    · rw [message_copied_legal _ p.consistent.message_legal text htext] at hcheck
      cases hcheck
  · exact Or.inr ⟨hid, hmade⟩

theorem two_le_count_names (before after : List EntityRef) (r : EntityRef)
    (hbatch : ws.batch m events states arcs = before ++ r :: after)
    (hstuck : (ws.stocked m arcs).Stuck ws.nextMachine before r) :
    2 ≤ (ws.names m events states arcs).count ((ws.stocked m arcs).entity r).id := by
  have hids := p.idsOf_batch
  rw [hbatch, idsOf, List.map_append, List.map_cons, ← idsOf, ← idsOf] at hids
  have hclash := hstuck.clash
  rw [machine_stocked_new, takenIds_stocked, List.mem_singleton] at hclash
  rw [names, ← hids]
  exact two_le_count _ _ _ _ hclash

/-- How the new machine turns out: it is refused because of its id, an entity is refused after others were taken over,
or all of them are taken over. -/
inductive Ending (ws : Workspace) (m : MachineRef) (events states : List EntityRef) (arcs : List FiringArc) :
    Workspace × Except Fault MachineRef → Prop
  | refused (hid : (ws.machine m).head.id = some allStateId) :
      Ending ws m events states arcs
        (ws, .error (.duplicateIdentifier allStateId "machine" "state" (ws.machine m).head.id))
  | stuck (hid : (ws.machine m).head.id ≠ some allStateId) (before : List EntityRef) (r : EntityRef)
      (after : List EntityRef) (existing new : String) (hbatch : ws.batch m events states arcs = before ++ r :: after)
      (hstuck : (ws.stocked m arcs).Stuck ws.nextMachine before r) :
      Ending ws m events states arcs ((ws.stocked m arcs).takingAll ws.nextMachine before,
        .error (.duplicateIdentifier ((ws.stocked m arcs).entity r).id existing new (ws.machine m).head.id))
  | made (hid : (ws.machine m).head.id ≠ some allStateId)
      (hadmits : (ws.stocked m arcs).Admits ws.nextMachine (ws.batch m events states arcs)) (journal : Journal) :
      Ending ws m events states arcs ({ ws.cloned m events states arcs with journal := journal }, .ok ws.nextMachine)

theorem ending_assemble : Ending ws m events states arcs (ws.assemble m events states arcs) := by
  have hhead : Head.copied (ws.machine m).head = ws.headFor m := rfl
  have hstages := assemble_cases ws m events states arcs
  rw [hhead] at hstages
  rcases newMachine_headFor_cases p with ⟨hid, hmade⟩ | ⟨hid, hmade⟩
  · rw [hmade] at hstages
    rcases hstages with ⟨fault, heq, hassemble⟩ | ⟨heq, _⟩
    · obtain rfl := Except.error.inj (Prod.mk.inj heq).2
      rw [hassemble]
      exact .refused hid
    · cases (Prod.mk.inj heq).2
  · rw [hmade] at hstages
    rcases hstages with ⟨fault, heq, _⟩ | ⟨_, hassemble⟩
    · cases (Prod.mk.inj heq).2
    · rw [← nextMachine] at hassemble
      rw [hassemble]
      rcases add_cases (ws.stocked m arcs) ws.nextMachine (ws.batch m events states arcs)
        (nextMachine_lt_stocked ws m arcs) p.holds_batch with
        hadmits | ⟨before, r, after, existing, new, hbatch, hstuck, hadd⟩
      · simp only [add_of_admits _ _ _ (nextMachine_lt_stocked ws m arcs) hadmits]
        exact .made hid hadmits _
      · rw [machine_stocked_new] at hadd
        simp only [hadd]
        exact .stuck hid before r after existing new hbatch hstuck

/-- The new machine is made exactly if no id would be given out twice. -/
theorem names_of_ending {result : Workspace × Except Fault MachineRef} (h : Ending ws m events states arcs result) :
    ((ws.names m events states arcs).Nodup ∧
      ∃ journal, result = ({ ws.cloned m events states arcs with journal := journal }, .ok ws.nextMachine)) ∨
    ∃ ws' id existing new, result = (ws', .error (.duplicateIdentifier id existing new (ws.machine m).head.id)) ∧
      2 ≤ (ws.names m events states arcs).count id := by
  cases h with
  | refused hid =>
    refine Or.inr ⟨ws, allStateId, _, _, rfl, ?_⟩
    rw [names, hid, Option.toList_some, List.singleton_append, List.count_cons_self, List.count_cons_self]
    omega
  | stuck hid before r after existing new hbatch hstuck =>
    exact Or.inr ⟨_, _, existing, new, rfl, two_le_count_names p before after r hbatch hstuck⟩
  | made hid hadmits journal =>
    exact Or.inl ⟨(nodup_names_iff ws m events states arcs).mpr ⟨hid, p.admits_iff.mp hadmits⟩, journal, rfl⟩

end

/-- Only the journal is written after the new machine is made. -/
theorem ending_finish {ws : Workspace} {m : MachineRef} {events touched : List EntityRef} {arcs : List FiringArc}
    (p : Parts ws m events (ws.byNumber touched) arcs) :
    Ending ws m events (ws.byNumber touched) arcs (ws.finish m events touched arcs) := by
  have hending := ending_assemble p
  unfold finish
  generalize ws.assemble m events (ws.byNumber touched) arcs = result at hending
  cases hending with
  | refused hid => exact .refused hid
  | stuck hid before r after existing new hbatch hstuck =>
    exact .stuck hid before r after existing new hbatch hstuck
  | made hid hadmits journal => exact .made hid hadmits _

/-! ## What is assembled -/

section
variable {ws ready : Workspace} {m : MachineRef} {specifiers : List String} {events touched : List EntityRef}
  (hc : ws.Consistent) (hm : m.index < ws.machines.length) (hselected : ws.matchingEvents m specifiers = .ok events)
  (htouched : ws.touchedStates (ws.collectArcs m events).1 = .ok touched) (hready : Ready ws m events ready)
include hc hm hselected htouched hready

theorem parts_of_ready : Parts ready m events (ready.byNumber touched) (ws.collectArcs m events).1 := by
  obtain ⟨_, hmem⟩ := touched_collected htouched
  have hkind := kindOf_of_bare_eq hready.bare_eq
  have hmembers := members_of_bare_eq hready.bare_eq m
  refine ⟨?_, consistent_machine_of_bare_eq hc hm hready.bare_eq, ?_, ?_, ?_⟩
  · rw [length_machines_of_bare_eq hready.bare_eq]
    exact hm
  · intro r hr
    rw [hmembers]
    exact (matchingEvents_sublist ws m specifiers events hselected).subset hr
  · intro r hr
    obtain ⟨_, a, _, f, t, hends, hrt⟩ := (hmem r).mp ((mem_sorted _ _ r).mp hr)
    obtain ⟨hf, ht⟩ := kindOf_endpoints ws _ f t hends
    rw [hkind]
    rcases hrt with rfl | rfl
    · exact hf
    · exact ht
  · intro a ha
    rcases cases_of_mem_collectArcs ws m events a ha with ⟨r, hr, rfl⟩ | ⟨w, _, s, rfl⟩
    · have hr := (known_of_mem_members (hc.machine m hm) .arc r hr).2
      rw [← hkind] at hr
      exact hr
    · rfl

omit hc hm hselected htouched in
theorem names_of_ready (arcs : List FiringArc) :
    (ready.names m events (ready.byNumber touched) arcs).Perm (ws.names m events touched arcs) := by
  have hid := id_entity_of_bare_eq hready.bare_eq
  have hname : ready.nameOf = ws.nameOf := nameOf_of_bare_eq hready.bare_eq
  have hmembers := members_of_bare_eq hready.bare_eq m
  have hhead := head_of_bare_eq hready.bare_eq m
  have hids : ∀ refs, ready.idsOf refs = ws.idsOf refs := by
    intro refs
    exact List.map_congr_left fun r _ => hid r
  have harcs : arcs.map (fun a => (ready.firing a).id) = arcs.map fun a => (ws.firing a).id :=
    List.map_congr_left fun a _ => congrFun hname a
  rw [names, names, hhead, wanted, wanted, harcs, hmembers, hmembers, hids, hids, hids]
  refine List.Perm.append_left _ (List.Perm.cons _ (List.Perm.append_right _ (List.Perm.append_right _ ?_)))
  exact List.Perm.append_left _ ((sorted_perm _ touched).map _)

end

/-- How an extraction ends once its events are selected. -/
theorem ending_extract (ws : Workspace) (m : MachineRef) (specifiers : List String) (events : List EntityRef)
    (hc : ws.Consistent) (hm : m.index < ws.machines.length)
    (hselected : ws.matchingEvents m specifiers = .ok events) :
    ∃ touched ready, ws.touchedStates (ws.collectArcs m events).1 = .ok touched ∧
      ready = ws.surveyed m specifiers events touched ∧
      Parts ready m events (ready.byNumber touched) (ws.collectArcs m events).1 ∧
      Ending ready m events (ready.byNumber touched) (ws.collectArcs m events).1 (ws.extract m specifiers) := by
  obtain ⟨touched, htouched, _, _⟩ := touchedStates_collected ws m events
  have p := parts_of_ready hc hm hselected htouched (ready_surveyed ws m specifiers events touched)
  refine ⟨touched, _, htouched, rfl, p, ?_⟩
  rw [extract_of_touched ws m specifiers events touched hselected htouched]
  exact ending_finish p

/-- An extraction assembles what it selected, and fails only if that fails. -/
theorem extract_of_matching (ws : Workspace) (m : MachineRef) (specifiers : List String) (events : List EntityRef)
    (hc : ws.Consistent) (hm : m.index < ws.machines.length)
    (hselected : ws.matchingEvents m specifiers = .ok events) :
    ∃ touched ready, ws.touchedStates (ws.collectArcs m events).1 = .ok touched ∧ Ready ws m events ready ∧
      (((ready.names m events (ready.byNumber touched) (ws.collectArcs m events).1).Nodup ∧
          ∃ journal, ws.extract m specifiers =
            ({ (ready.stocked m (ws.collectArcs m events).1).takingAll ready.nextMachine
                (ready.batch m events (ready.byNumber touched) (ws.collectArcs m events).1) with journal := journal },
              .ok ready.nextMachine)) ∨
        ∃ ws' id existing new, ws.extract m specifiers =
            (ws', .error (.duplicateIdentifier id existing new (ready.machine m).head.id)) ∧
          2 ≤ (ready.names m events (ready.byNumber touched) (ws.collectArcs m events).1).count id) := by
  obtain ⟨touched, ready, htouched, rfl, p, hending⟩ := ending_extract ws m specifiers events hc hm hselected
  exact ⟨touched, _, htouched, ready_surveyed ws m specifiers events touched, names_of_ending p hending⟩

/-! ## Derived arcs -/

/-- What the new machine shares with the old one. -/
def shared (ws : Workspace) (m : MachineRef) (events states : List EntityRef) : List EntityRef :=
  events ++ states ++ (ws.members m .bundle ++ ws.members m .action)

theorem id_derivedFor_ne_all (arc s : Entity) : (arc.derivedFor s).id ≠ allStateId := by
  intro h
  have hid : arc.id ++ "_" ++ s.id = allStateId := h
  have hmem : '_' ∈ (arc.id ++ "_" ++ s.id).toList := by simp
  rw [hid] at hmem
  exact absurd hmem (by decide +kernel)

theorem names_perm (ws : Workspace) (m : MachineRef) (events states : List EntityRef) (arcs : List FiringArc) :
    (ws.names m events states arcs).Perm (((ws.machine m).head.id.toList ++
      allStateId :: ws.idsOf (ws.shared m events states)) ++ arcs.map fun a => (ws.firing a).id) := by
  rw [names, wanted, shared, List.append_assoc (ws.machine m).head.id.toList, List.cons_append]
  refine List.Perm.append_left _ (List.Perm.cons _ ?_)
  simp only [idsOf, List.map_append, List.append_assoc]
  refine List.Perm.append_left _ (List.Perm.append_left _ ?_)
  rw [← List.append_assoc (List.map _ (ws.members m .bundle))]
  exact List.perm_append_comm

section
variable {ws : Workspace} {m : MachineRef} (hx : (ws.machine m).Consistent ws.kindOf ws.entities.length)
  (hn : ws.Named m) (hown : (ws.machine m).head.id = (ws.machine m).registry.reserved)
include hx hn hown

/-- No member of a machine has the id of the machine or of its state `#ALL`. -/
theorem id_member_ne (kind : Kind) (r : EntityRef) (hr : r ∈ ws.members m kind) :
    (ws.entity r).id ∉ (ws.machine m).head.id.toList ++ [allStateId] := by
  have hentry := (mem_entries_iff hx hn _ r).mpr ⟨Or.inr ⟨kind, hr⟩, rfl⟩
  rw [List.mem_append, List.mem_singleton, Option.mem_toList, not_or]
  constructor
  · rw [hown]
    exact hx.not_reserved _ (List.mem_map_of_mem hentry)
  · exact id_ne_all hx hn kind r hr

omit hn in
theorem head_ne_all : (ws.machine m).head.id ≠ some allStateId := by
  rw [hown]
  exact hx.not_reserved _ (List.mem_map_of_mem hx.allState_mem)

variable {events touched : List EntityRef} (hevents : events.Sublist (ws.members m .event))
  (hstates : ∀ s ∈ touched, s ∈ ws.members m .state) (hnodup : touched.Nodup)
include hevents hstates

omit hx hn hown in
theorem kind_of_mem_shared (r : EntityRef) (hr : r ∈ ws.shared m events touched) :
    ∃ kind, kind ≠ .arc ∧ r ∈ ws.members m kind := by
  rw [shared, List.mem_append, List.mem_append, List.mem_append] at hr
  rcases hr with (hr | hr) | (hr | hr)
  · exact ⟨.event, by simp, hevents.subset hr⟩
  · exact ⟨.state, by simp, hstates r hr⟩
  · exact ⟨.bundle, by simp, hr⟩
  · exact ⟨.action, by simp, hr⟩

include hnodup

omit hown in
theorem nodup_refs_shared : (ws.shared m events touched).Nodup := by
  have hapart : ∀ k l r s, k ≠ l → r ∈ ws.members m k → s ∈ ws.members m l → r ≠ s := by
    rintro k l r s hkl hr hs rfl
    exact hkl ((known_of_mem_members hx k r hr).2.symm.trans (known_of_mem_members hx l r hs).2)
  have hmembers := nodup_members hx hn
  rw [shared, List.nodup_append, List.nodup_append, List.nodup_append]
  refine ⟨⟨(hmembers .event).sublist hevents, hnodup, ?_⟩, ⟨hmembers .bundle, hmembers .action, ?_⟩, ?_⟩
  · exact fun r hr s hs => hapart .event .state r s (by simp) (hevents.subset hr) (hstates s hs)
  · exact fun r hr s hs => hapart .bundle .action r s (by simp) hr hs
  · intro r hr s hs
    rcases List.mem_append.mp hr with hr | hr <;> rcases List.mem_append.mp hs with hs | hs
    · exact hapart .event .bundle r s (by simp) (hevents.subset hr) hs
    · exact hapart .event .action r s (by simp) (hevents.subset hr) hs
    · exact hapart .state .bundle r s (by simp) (hstates r hr) hs
    · exact hapart .state .action r s (by simp) (hstates r hr) hs

theorem nodup_shared :
    ((ws.machine m).head.id.toList ++ allStateId :: ws.idsOf (ws.shared m events touched)).Nodup := by
  have hids : (ws.idsOf (ws.shared m events touched)).Nodup := by
    refine (nodup_refs_shared hx hn hevents hstates hnodup).map_on ?_
    intro r hr s hs heq
    obtain ⟨k, _, hr⟩ := kind_of_mem_shared hevents hstates r hr
    obtain ⟨l, _, hs⟩ := kind_of_mem_shared hevents hstates s hs
    exact eq_of_id_eq hx hn k l r s hr hs heq
  have hfree : ∀ id ∈ ws.idsOf (ws.shared m events touched),
      id ∉ (ws.machine m).head.id.toList ++ [allStateId] := by
    intro id hid
    obtain ⟨r, hr, rfl⟩ := List.mem_map.mp hid
    obtain ⟨k, _, hr⟩ := kind_of_mem_shared hevents hstates r hr
    exact id_member_ne hx hn hown k r hr
  rw [List.nodup_append, List.nodup_cons]
  refine ⟨?_, ⟨fun hmem => hfree _ hmem (by simp), hids⟩, ?_⟩
  · cases (ws.machine m).head.id <;> simp
  · intro id hid other hother heq
    rcases List.mem_cons.mp hother with rfl | hother
    · rw [heq, Option.mem_toList] at hid
      exact head_ne_all hx hown hid
    · exact hfree other hother (List.mem_append_left _ (heq ▸ hid))

/-- Only arcs that are derived can claim an id that is given out already. -/
theorem nodup_names_iff_derived (arcs : List FiringArc) (harcs : (arcs.map fun a => (ws.firing a).id).Nodup)
    (hdeclared : ∀ r, .declared r ∈ arcs → r ∈ ws.members m .arc)
    (hderived : ∀ e, .derived e ∈ arcs → e.id ≠ allStateId) :
    (ws.names m events touched arcs).Nodup ↔ ∀ e, .derived e ∈ arcs →
      e.id ∉ (ws.machine m).head.id.toList ++ ws.idsOf (ws.shared m events touched) := by
  rw [(names_perm ws m events touched arcs).nodup_iff, List.nodup_append]
  constructor
  · rintro ⟨_, _, hdisjoint⟩ e he hmem
    refine hdisjoint e.id ?_ e.id (List.mem_map.mpr ⟨_, he, rfl⟩) rfl
    rcases List.mem_append.mp hmem with hmem | hmem
    · exact List.mem_append_left _ hmem
    · exact List.mem_append_right _ (List.mem_cons_of_mem _ hmem)
  · intro h
    refine ⟨nodup_shared hx hn hown hevents hstates hnodup, harcs, ?_⟩
    rintro id hid _ hother rfl
    obtain ⟨a, ha, rfl⟩ := List.mem_map.mp hother
    rw [List.mem_append, List.mem_cons] at hid
    cases a with
    | declared r =>
      have hr := hdeclared r ha
      have hfree := id_member_ne hx hn hown .arc r hr
      rw [List.mem_append, List.mem_singleton, not_or] at hfree
      rcases hid with hid | hid | hid
      · exact hfree.1 hid
      · exact hfree.2 hid
      · obtain ⟨s, hs, heq⟩ := List.mem_map.mp hid
        obtain ⟨k, hk, hs⟩ := kind_of_mem_shared hevents hstates s hs
        rw [eq_of_id_eq hx hn k .arc s r hs hr heq] at hs
        exact hk ((known_of_mem_members hx k r hs).2.symm.trans (known_of_mem_members hx .arc r hr).2)
    | derived e =>
      rcases hid with hid | hid | hid
      · exact h e ha (List.mem_append_left _ hid)
      · exact hderived e ha hid
      · exact h e ha (List.mem_append_right _ hid)

end

/-! ## Extractions that fail -/

/-- Where all numbers to sort by are there, an extraction makes a machine exactly if no id would be given out twice, and
else fails with such an id. They are there in a machine whose arcs point back to it. If its names are in order too, only
the ids of derived arcs can be given out already. -/
theorem extract_ok_iff_nodup_names (ws : Workspace) (m : MachineRef) (specifiers : List String)
    (events : List EntityRef) (hreach : ws.Reachable) (hm : m.index < ws.machines.length)
    (hselected : ws.matchingEvents m specifiers = .ok events) :
    ∃ touched, ws.touchedStates (ws.collectArcs m events).1 = .ok touched ∧
      (ws.SortsNumbers m events →
        ((ws.names m events touched (ws.collectArcs m events).1).Nodup →
          ∃ ws' clone, ws.extract m specifiers = (ws', .ok clone)) ∧
        (¬ (ws.names m events touched (ws.collectArcs m events).1).Nodup →
          ∃ ws' id existing new owner, ws.extract m specifiers =
              (ws', .error (.duplicateIdentifier id existing new owner)) ∧
            2 ≤ (ws.names m events touched (ws.collectArcs m events).1).count id)) ∧
      (ws.ArcsBelong m → ws.SortsNumbers m events) ∧
      (ws.ArcsBelong m → ws.Named m → (ws.machine m).head.id = (ws.machine m).registry.reserved →
        ((ws.names m events touched (ws.collectArcs m events).1).Nodup ↔
          ∀ e, .derived e ∈ (ws.collectArcs m events).1 →
            e.id ∉ (ws.machine m).head.id.toList ++ ws.idsOf (ws.shared m events touched))) := by
  have hx := hreach.consistent.machine m hm
  obtain ⟨touched, ready, htouched, hready, hresult⟩ :=
    extract_of_matching ws m specifiers events hreach.consistent hm hselected
  have hperm : (ready.names m events (ready.byNumber touched) (ws.collectArcs m events).1).Perm
      (ws.names m events touched (ws.collectArcs m events).1) := names_of_ready hready _
  refine ⟨touched, htouched, fun _ => ⟨?_, ?_⟩, fun hb => sortsNumbers_of_arcsBelong hx hb events, ?_⟩
  · intro hnodup
    rcases hresult with ⟨_, journal, hextract⟩ | ⟨ws', id, existing, new, _, hcount⟩
    · exact ⟨_, _, hextract⟩
    · rw [hperm.count_eq] at hcount
      have := List.nodup_iff_count_le_one.mp hnodup id
      omega
  · intro hdouble
    rcases hresult with ⟨hnodup, _⟩ | ⟨ws', id, existing, new, hextract, hcount⟩
    · exact absurd (hperm.nodup_iff.mp hnodup) hdouble
    · rw [hperm.count_eq] at hcount
      exact ⟨ws', id, existing, new, _, hextract, hcount⟩
  · intro hb hn hown
    obtain ⟨touched', htouched', hnodup, hmem⟩ := touchedStates_collected ws m events
    obtain rfl : touched' = touched := Except.ok.inj (htouched'.symm.trans htouched)
    have hstates : ∀ s ∈ touched', s ∈ ws.members m .state := by
      intro s hs
      obtain ⟨hconcrete, a, ha, f, t, hends, hst⟩ := (hmem s).mp hs
      exact mem_states_of_touched hx hn hb ha hends hst hconcrete
    refine nodup_names_iff_derived hx hn hown (matchingEvents_sublist ws m specifiers events hselected) hstates hnodup
      _ (nodup_names_collectArcs ws m events) ?_ ?_
    · intro r hr
      rcases cases_of_mem_collectArcs ws m events _ hr with ⟨s, hs, heq⟩ | ⟨w, _, s, heq⟩
      · rw [FiringArc.declared.inj heq]
        exact hs
      · cases heq
    · intro e he
      rcases cases_of_mem_collectArcs ws m events _ he with ⟨s, _, heq⟩ | ⟨w, _, s, heq⟩
      · cases heq
      · rw [FiringArc.derived.inj heq]
        exact id_derivedFor_ne_all _ _

/-- A machine with a class that has the id of the arc to be derived for its state. -/
def namesake : Workspace := filled "m"
  [{ id := "s", detail := .state [] [] none }, { id := "go", detail := .event none },
   { id := "w_s", detail := .bundle },
   { id := "w", detail := .arc { fromId := some "#ALL", toId := some "#ALL", eventId := some "go" } }]

theorem extract_ok_iff_nodup_names_namesake :
    0 < namesake.machines.length ∧ namesake.matchingEvents ⟨0⟩ [] = .ok (namesake.members ⟨0⟩ .event) ∧
      ∃ ws' id existing new owner,
        namesake.extract ⟨0⟩ [] = (ws', .error (.duplicateIdentifier id existing new owner)) := by
  refine ⟨by decide +kernel, rfl, ?_⟩
  obtain ⟨touched, htouched, hends, hsorts, _⟩ := extract_ok_iff_nodup_names namesake ⟨0⟩ [] _ (reachable_filled _ _)
    (by decide +kernel) rfl
  have hone : (namesake.touchedStates (namesake.collectArcs ⟨0⟩ (namesake.members ⟨0⟩ .event)).1).toOption =
      some [⟨1⟩] := by decide +kernel
  rw [htouched] at hone
  obtain rfl : touched = [⟨1⟩] := Option.some.inj hone
  obtain ⟨ws', id, existing, new, owner, hextract, _⟩ := (hends (hsorts (by decide +kernel))).2 (by decide +kernel)
  exact ⟨ws', id, existing, new, owner, hextract⟩

/-- An arc that a second machine has taken over leaves a state of this one, which has no number yet to sort by. -/
example :
    let ws := [Operation.start { id := some "n" }, .make { id := "s", detail := .state [] [] none },
      .add ⟨1⟩ [.entity ⟨7⟩, .entity ⟨4⟩]].foldl perform (filled "m"
        [{ id := "s", detail := .state [] [] none }, { id := "t", detail := .state [] [] none },
         { id := "go", detail := .event none },
         { id := "a", detail := .arc { fromId := some "s", toId := some "s", eventId := some "go" } },
         { id := "b", detail := .arc { fromId := some "t", toId := some "t", eventId := some "go" } }])
    ¬ CanSort ((ws.arcsForEvent ⟨0⟩ "go" false).1.map (ws.renumber ⟨0⟩).originNumber?) := by decide +kernel

/-- Not every valid machine can be extracted, even if its arcs and names are in order. -/
theorem extract_fails_namesake :
    ¬ ∀ (ws : Workspace) (m : MachineRef) (specifiers : List String) (events : List EntityRef), ws.Reachable →
      m.index < ws.machines.length → (ws.check m).1.isValid = true → ws.ArcsBelong m → ws.Named m →
      ws.matchingEvents m specifiers = .ok events → ∃ ws' clone, ws.extract m specifiers = (ws', .ok clone) := by
  intro h
  obtain ⟨ws', clone, hextract⟩ := h namesake ⟨0⟩ [] _ (reachable_filled _ _) (by decide +kernel) (by decide +kernel)
    (by decide +kernel) (by decide +kernel) rfl
  have hnone : (namesake.extract ⟨0⟩ []).2.toOption = none := by decide +kernel
  rw [hextract] at hnone
  cases hnone

end StateMachine.Workspace
