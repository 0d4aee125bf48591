import StateMachine.Proofs.Collecting
import StateMachine.Proofs.Touching

/-!
# The states of collected arcs

Collected arcs leave and enter states; those of them that are concrete are the touched ones. Where the arcs of a machine
point back to it, they are states of the machine, so that arcs and states are sorted by numbers that all are there.
-/

namespace StateMachine.Workspace

/-! ## What is collected -/

theorem endpoints_of_mem_collectArcs (ws : Workspace) (m : MachineRef) (events : List EntityRef) (a : FiringArc)
    (h : a ∈ (ws.collectArcs m events).1) : (ws.endpoints? (ws.firing a)).isSome := by
  obtain ⟨event, _, ha⟩ := mem_collectArcs ws m events a h
  exact (candidate_of_mem_arcsForEvent ws m _ false a ha).2

theorem cases_of_mem_collectArcs (ws : Workspace) (m : MachineRef) (events : List EntityRef) (a : FiringArc)
    (h : a ∈ (ws.collectArcs m events).1) :
    (∃ r ∈ ws.members m .arc, a = .declared r) ∨
      ∃ w ∈ ws.members m .arc, ∃ s, a = .derived ((ws.entity w).derivedFor (ws.entity s)) := by
  obtain ⟨event, _, ha⟩ := mem_collectArcs ws m events a h
  obtain ⟨⟨k, hmem⟩, _⟩ := candidate_of_mem_arcsForEvent ws m _ false a ha
  rcases candidates_cases ws m _ false _ k a hmem with ⟨r, hr, _, _, rfl⟩ | ⟨_, w, hw, s, _, _, rfl, _⟩
  · exact Or.inl ⟨r, (List.mem_filter.mp hr.mem).1, rfl⟩
  · exact Or.inr ⟨w, (List.mem_filter.mp (List.mem_filter.mp hw).1).1, s, rfl⟩

theorem machine_of_mem_collectArcs {ws : Workspace} {m : MachineRef} (hb : ws.ArcsBelong m) (events : List EntityRef)
    (a : FiringArc) (h : a ∈ (ws.collectArcs m events).1) : (ws.firing a).machine = some m := by
  rcases cases_of_mem_collectArcs ws m events a h with ⟨r, hr, rfl⟩ | ⟨w, hw, _, rfl⟩
  · exact hb r hr
  · exact hb w hw

theorem kindOf_endpoints (ws : Workspace) (e : Entity) (f t : EntityRef) (h : ws.endpoints? e = some (f, t)) :
    ws.kindOf f = .state ∧ ws.kindOf t = .state := by
  unfold endpoints? at h
  split at h
  case h_1 hf ht =>
    obtain ⟨rfl, rfl⟩ := Prod.mk.inj (Option.some.inj h)
    unfold findFrom at hf ht
    split at hf
    · rename_i hmachine
      rw [hmachine] at ht
      exact ⟨kindOf_of_find ws _ .state _ _ hf, kindOf_of_find ws _ .state _ _ ht⟩
    · cases hf
  case h_2 => cases h

theorem touchedStates_collected (ws : Workspace) (m : MachineRef) (events : List EntityRef) :
    ∃ touched, ws.touchedStates (ws.collectArcs m events).1 = .ok touched ∧ touched.Nodup ∧
      ∀ s, s ∈ touched ↔ (ws.entity s).isAllState = false ∧
        ∃ a ∈ (ws.collectArcs m events).1, ∃ f t, ws.endpoints? (ws.firing a) = some (f, t) ∧ (s = f ∨ s = t) :=
  touchedStates_of_endpoints ws _ (endpoints_of_mem_collectArcs ws m events)

theorem touched_collected {ws : Workspace} {m : MachineRef} {events touched : List EntityRef}
    (htouched : ws.touchedStates (ws.collectArcs m events).1 = .ok touched) : touched.Nodup ∧
      ∀ s, s ∈ touched ↔ (ws.entity s).isAllState = false ∧
        ∃ a ∈ (ws.collectArcs m events).1, ∃ f t, ws.endpoints? (ws.firing a) = some (f, t) ∧ (s = f ∨ s = t) := by
  obtain ⟨touched', hok, hspec⟩ := touchedStates_collected ws m events
  obtain rfl := Except.ok.inj (htouched.symm.trans hok)
  exact hspec

section
variable {ws : Workspace} {m : MachineRef} {events : List EntityRef}
  (hx : (ws.machine m).Consistent ws.kindOf ws.entities.length) (hn : ws.Named m) (hb : ws.ArcsBelong m)
  {a : FiringArc} {f t s : EntityRef} (ha : a ∈ (ws.collectArcs m events).1)
  (hends : ws.endpoints? (ws.firing a) = some (f, t)) (hs : s = f ∨ s = t)
include hx hb ha hends hs

/-- In a machine whose arcs point back to it, what collected arcs leave and enter are its states. -/
theorem state_of_collected : s = (ws.machine m).allState ∨ s ∈ ws.members m .state := by
  obtain ⟨hf, ht⟩ := (endpoints?_eq_some_iff ws m _ (machine_of_mem_collectArcs hb events a ha) f t).mp hends
  rcases hs with rfl | rfl
  · exact state_of_find hx hf
  · exact state_of_find hx ht

include hn

omit hb in
theorem mem_touched_of_state {touched : List EntityRef}
    (htouched : ws.touchedStates (ws.collectArcs m events).1 = .ok touched) (hstate : s ∈ ws.members m .state) :
    s ∈ touched :=
  ((touched_collected htouched).2 s).mpr
    ⟨beq_eq_false_iff_ne.mpr (id_ne_all hx hn .state s hstate), a, ha, f, t, hends, hs⟩

theorem mem_states_of_touched (hconcrete : (ws.entity s).isAllState = false) : s ∈ ws.members m .state := by
  refine (state_of_collected hx hb ha hends hs).resolve_left ?_
  rintro rfl
  rw [Entity.isAllState, id_allState hx hn, beq_self_eq_true] at hconcrete
  cases hconcrete

end

/-! ## Numbers to sort by -/

/-- Numbers can be sorted: none of them is missing, or there is nothing to compare. -/
def CanSort (numbers : List (Option Int)) : Prop := numbers.length ≤ 1 ∨ none ∉ numbers

instance (numbers : List (Option Int)) : Decidable (CanSort numbers) :=
  inferInstanceAs (Decidable (numbers.length ≤ 1 ∨ none ∉ numbers))

/-- An extraction of these events compares no number that is missing: neither where it sorts the arcs of an event, nor
where it sorts the states that are touched. -/
structure SortsNumbers (ws : Workspace) (m : MachineRef) (events : List EntityRef) : Prop where
  arcs : ∀ event ∈ events,
    CanSort ((ws.arcsForEvent m (ws.entity event).id false).1.map (ws.renumber m).originNumber?)
  states : ∀ touched, ws.touchedStates (ws.collectArcs m events).1 = .ok touched →
    CanSort (touched.map fun s => ((ws.collectArcs m events).2.entity s).number)

theorem number_numberFrom_ne_none (ws : Workspace) (k : Nat) (states : List EntityRef)
    (hstates : ∀ s ∈ states, s.index < ws.entities.length ∧ ws.kindOf s = .state) (r : EntityRef)
    (h : r ∈ states ∨ (ws.entity r).number ≠ none) : ((ws.numberFrom k states).entity r).number ≠ none := by
  induction states generalizing ws k with
  | nil => exact h.resolve_left List.not_mem_nil
  | cons s rest ih =>
    obtain ⟨hs, hrest⟩ := List.forall_mem_cons.mp hstates
    refine ih (ws.modifyEntity s _) (k + 1) ?_ ?_
    · rw [length_modifyEntity, kindOf_modifyEntity_number]
      exact hrest
    · by_cases hr : r = s
      · rw [hr, number_modifyEntity ws s _ hs]
        exact Or.inr (Option.some_ne_none _)
      · rw [entity_modifyEntity_ne ws s r _ hr]
        exact h.imp_left fun hmem => (List.mem_cons.mp hmem).resolve_left hr

section
variable {ws : Workspace} {m : MachineRef} (hx : (ws.machine m).Consistent ws.kindOf ws.entities.length)
include hx

/-- Whatever the states are called, all of them get numbers. -/
theorem number_renumber_ne_none {r : EntityRef} (hr : r = (ws.machine m).allState ∨ r ∈ ws.members m .state) :
    ((ws.renumber m).entity r).number ≠ none := by
  rw [renumber_eq]
  by_cases hall : r = (ws.machine m).allState
  · rw [hall, number_modifyEntity]
    · exact Option.some_ne_none _
    · rw [length_numberFrom, kindOf_numberFrom]
      exact ⟨hx.known _ hx.allState_mem, hx.allState_kind⟩
  · rw [entity_modifyEntity_ne _ _ _ _ hall]
    exact number_numberFrom_ne_none ws 1 _ (known_of_mem_members hx .state) r (Or.inl (hr.resolve_left hall))

/-- Where arcs point back to their machine, no number is missing. -/
theorem sortsNumbers_of_arcsBelong (hb : ws.ArcsBelong m) (events : List EntityRef) : ws.SortsNumbers m events where
  arcs event _ := by
    refine Or.inr fun hnone => ?_
    obtain ⟨a, ha, hmissing⟩ := List.mem_map.mp hnone
    obtain ⟨f, t, hends, hfrom, _⟩ :=
      endpoints_of_mem_found hb _ false _ a ((mem_arcsForEvent_iff ws m _ false a).mp ha)
    rw [originNumber?, ← endpoints?_firing_bare, bare_renumber, endpoints?_firing_bare, hends] at hmissing
    exact number_renumber_ne_none hx (state_of_find hx hfrom) hmissing
  states touched htouched := by
    refine Or.inr fun hnone => ?_
    obtain ⟨s, hs, hmissing⟩ := List.mem_map.mp hnone
    obtain ⟨_, a, ha, f, t, hends, hst⟩ := ((touched_collected htouched).2 s).mp hs
    obtain ⟨event, hevent, _⟩ := mem_collectArcs ws m events a ha
    rw [entity_collectArcs ws m events (List.ne_nil_of_mem hevent)] at hmissing
    exact number_renumber_ne_none hx (state_of_collected hx hb ha hends hst) hmissing

end

end StateMachine.Workspace
