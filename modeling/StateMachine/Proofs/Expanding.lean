import StateMachine.Proofs.Covering
import StateMachine.Proofs.Preserving

/-!
# Which arcs from `#ALL` an expansion goes back to

On one event there may be several arcs from `#ALL`. For each guard the first of them counts, and all derived arcs with
the guard come from it. Any other one may as well not be there.
-/

namespace StateMachine.Workspace

/-- The first declared arc from `#ALL` on an event that has the guard. -/
def firstWildcard? (ws : Workspace) (m : MachineRef) (eventId : String) (guard : Option String) : Option EntityRef :=
  (ws.wildcardsOn m eventId).find? fun w => (ws.entity w).transition.guard = guard

/-- The machine has other declared arcs, and is the same otherwise. -/
def withArcs (ws : Workspace) (m : MachineRef) (arcs : List EntityRef) : Workspace :=
  ws.modifyMachine m fun machine =>
    { machine with members := fun kind => if kind = .arc then arcs else machine.members kind }

theorem leavesAll_eq_true_iff (e : Entity) :
    e.leavesAll = true ↔ ∃ id, e.transition.fromId = some id ∧ Text.upper id = allStateId := by
  rw [Entity.leavesAll]
  cases e.transition.fromId <;> simp

/-! ## Where a derived arc comes from -/

section
variable {ws : Workspace} {m : MachineRef} {eventId : String}

theorem allStateArc?_eq_head? : ws.allStateArc? m eventId = (ws.wildcardsOn m eventId).head? := by
  rw [allStateArc?, wildcardsOn, arcsOn, List.head?_filter, List.find?_filter]
  simp only [Bool.decide_and, Bool.decide_eq_true]

/-- The first arc from `#ALL` is the first one with its guard. -/
theorem firstWildcard?_of_allStateArc? {w : EntityRef} (h : ws.allStateArc? m eventId = some w) :
    ws.firstWildcard? m eventId (ws.entity w).transition.guard = some w := by
  rw [allStateArc?_eq_head?, List.head?_eq_some_iff] at h
  obtain ⟨later, hwildcards⟩ := h
  rw [firstWildcard?, hwildcards]
  exact List.find?_cons_of_pos (decide_eq_true rfl)

/-- What is derived first for its key is derived from the first arc with its guard. -/
theorem isFirst_of_derivations {wildcards states : List EntityRef} {w s : EntityRef}
    (h : Assoc.IsFirst ws.derivedKey (derivations wildcards states) (w, s)) :
    Assoc.IsFirst (fun w => (ws.entity w).transition.guard) wildcards w := by
  obtain ⟨hw, hs⟩ := (mem_derivations _ _ _).mp h.mem
  obtain ⟨v, hv, hguard⟩ := Assoc.exists_isFirst (fun w => (ws.entity w).transition.guard) wildcards w hw
  obtain ⟨t, ht, hid⟩ := Assoc.exists_isFirst (fun s => Text.upper (ws.entity s).id) states s hs
  have heq := Assoc.IsFirst.unique (isFirst_derivations ws wildcards states v t hv ht) h (Prod.ext hid hguard)
  rwa [← (Prod.mk.inj heq).1]

theorem mem_states_iff (s : EntityRef) : s ∈ (ws.states m).1 ↔ s ∈ ws.members m .state := by
  rw [← members_of_bare_eq (bare_renumber ws m)]
  exact mem_sorted _ _ s

theorem origin_of_derived {e : Entity} (h : .derived e ∈ (ws.arcsForEvent m eventId false).1) :
    ∃ w s, ws.firstWildcard? m eventId e.transition.guard = some w ∧ s ∈ ws.members m .state ∧
      e = (ws.entity w).derivedFor (ws.entity s) := by
  obtain ⟨⟨k, hmem⟩, _⟩ := candidate_of_mem_arcsForEvent ws m eventId false _ h
  rcases (Assoc.mem_fill_iff _ _ _ _ _).mp hmem with hmem | ⟨⟨w, s⟩, hfirst, _, heq⟩
  · obtain ⟨r, _, _, _, hdeclared⟩ := (mem_concreteArcs ws _ _ _).mp hmem
    cases hdeclared
  · obtain rfl := FiringArc.derived.inj (Prod.mk.inj heq).2
    refine ⟨w, s, (Assoc.isFirst_iff_find? _ _ w).mp (isFirst_of_derivations hfirst), ?_, rfl⟩
    exact (mem_states_iff s).mp ((mem_derivations _ _ _).mp hfirst.mem).2

theorem wildcardsOn_renumber : (ws.renumber m).wildcardsOn m eventId = ws.wildcardsOn m eventId := by
  rw [← wildcardsOn_bare, bare_renumber, wildcardsOn_bare]

/-- Without arcs from `#ALL` there is nothing to expand. -/
theorem arcsForEvent_of_no_wildcard (h : ws.allStateArc? m eventId = none) :
    ws.arcsForEvent m eventId false = ws.arcsForEvent m eventId true := by
  have hnone : (ws.renumber m).wildcardsOn m eventId = [] := by
    rw [wildcardsOn_renumber, ← allStateArc?_eq_none_iff, h]
  have hcandidates : (ws.renumber m).candidateArcs m eventId false = (ws.renumber m).candidateArcs m eventId true := by
    simp [candidateArcs, hnone]
  simp only [arcsForEvent, resolve, hcandidates]

end

/-! ## Other declared arcs -/

section
variable (ws : Workspace) (m : MachineRef) (arcs : List EntityRef)

theorem machine_withArcs (n : MachineRef) : ∃ members, (ws.withArcs m arcs).machine n =
    { ws.machine n with members := members } ∧ ∀ kind ≠ .arc, members kind = (ws.machine n).members kind := by
  rcases machine_modifyMachine_cases ws m _ n with heq | ⟨heq, _⟩
  · exact ⟨_, heq, fun _ _ => rfl⟩
  · exact ⟨_, heq, fun _ hkind => if_neg hkind⟩

theorem members_withArcs_arc (hm : m.index < ws.machines.length) : (ws.withArcs m arcs).members m .arc = arcs := by
  rw [members, withArcs, machine_modifyMachine_self ws m _ hm]
  rfl

theorem members_withArcs_ne (kind : Kind) (hkind : kind ≠ .arc) :
    (ws.withArcs m arcs).members m kind = ws.members m kind := by
  obtain ⟨_, heq, hmembers⟩ := machine_withArcs ws m arcs m
  rw [members, heq]
  exact hmembers kind hkind

@[simp]
theorem find_withArcs (n : MachineRef) (kind : Kind) (id : Option String) :
    (ws.withArcs m arcs).find n kind id = ws.find n kind id := by
  obtain ⟨_, heq, _⟩ := machine_withArcs ws m arcs n
  rw [find, lookup, heq]
  rfl

@[simp]
theorem endpoints?_withArcs (e : Entity) : (ws.withArcs m arcs).endpoints? e = ws.endpoints? e := by
  simp only [endpoints?, findFrom, find_withArcs]

theorem numberFrom_withArcs (k : Nat) (states : List EntityRef) :
    (ws.withArcs m arcs).numberFrom k states = (ws.numberFrom k states).withArcs m arcs := by
  induction states generalizing ws k with
  | nil => rfl
  | cons s rest ih => exact ih (ws.modifyEntity s _) (k + 1)

theorem renumber_withArcs : (ws.withArcs m arcs).renumber m = (ws.renumber m).withArcs m arcs := by
  obtain ⟨_, heq, _⟩ := machine_withArcs ws m arcs m
  rw [renumber_eq, renumber_eq, members_withArcs_ne ws m arcs .state (by decide), numberFrom_withArcs, heq]
  rfl

theorem report_withArcs (d : Diagnostic) : (ws.withArcs m arcs).report m d = (ws.report m d).withArcs m arcs := by
  have hmachines : (ws.withArcs m arcs).modifyMachine m (fun x => { x with warnings := x.warnings ++ [d] }) =
      (ws.modifyMachine m fun x => { x with warnings := x.warnings ++ [d] }).withArcs m arcs := by
    simp only [withArcs, modifyMachine, List.modify_modify_eq]
    rfl
  obtain ⟨_, heq, _⟩ := machine_withArcs (ws.modifyMachine m fun x => { x with warnings := x.warnings ++ [d] }) m arcs m
  rw [report, hmachines, heq]
  rfl

theorem reportAll_withArcs (ds : List Diagnostic) :
    (ws.withArcs m arcs).reportAll m ds = (ws.reportAll m ds).withArcs m arcs := by
  induction ds generalizing ws with
  | nil => rfl
  | cons d rest ih =>
    rw [reportAll, List.foldl_cons, report_withArcs]
    exact ih (ws.report m d)

/-- If the candidates stay the same, then so does all else. -/
theorem arcsForEvent_withArcs (eventId : String) (raw : Bool)
    (hsame : ((ws.renumber m).withArcs m arcs).candidateArcs m eventId raw =
      (ws.renumber m).candidateArcs m eventId raw) :
    (ws.withArcs m arcs).arcsForEvent m eventId raw =
      ((ws.arcsForEvent m eventId raw).1, (ws.arcsForEvent m eventId raw).2.withArcs m arcs) := by
  have hresolve : ((ws.renumber m).withArcs m arcs).resolve m eventId raw = (ws.renumber m).resolve m eventId raw := by
    have hfiring : ((ws.renumber m).withArcs m arcs).firing = (ws.renumber m).firing := by
      funext a
      cases a <;> rfl
    have hnumber : ((ws.renumber m).withArcs m arcs).originNumber = (ws.renumber m).originNumber := by
      funext a
      rw [originNumber_eq, hfiring, endpoints?_withArcs, originNumber_eq]
      rfl
    simp only [resolve, hsame, hnumber, hfiring, endpoints?_withArcs]
  rw [arcsForEvent, renumber_withArcs, hresolve]
  exact Prod.ext rfl (reportAll_withArcs _ m arcs _)

end

/-! ## Arcs from `#ALL` that may as well not be there -/

/-- Arcs from `#ALL` take no part in what is declared state by state. -/
theorem concreteArcs_eq (ws : Workspace) (arcs : List EntityRef) : ws.concreteArcs arcs =
    Assoc.bindAll (fun r => arcKey (ws.entity r)) .declared (arcs.filter fun r => !(ws.entity r).leavesAll) := by
  have hall : ∀ e, decide ((arcKey e).1 ≠ allStateId) = !e.leavesAll := fun e => by
    rw [Bool.eq_iff_iff, decide_eq_true_iff, ne_eq, fst_arcKey_eq_iff, Bool.not_eq_true, Bool.not_eq_true']
  simp only [← hall]
  exact Assoc.filter_bindAll _ _ (fun k : ArcKey => decide (k.1 ≠ allStateId)) arcs

/-- What the arcs on an event come to, for states in a given order. -/
def expansion (ws : Workspace) (arcs states : List EntityRef) : List (ArcKey × FiringArc) :=
  Assoc.fill ws.derivedKey ws.derivedArc (derivations (arcs.filter fun r => (ws.entity r).leavesAll) states)
    (ws.concreteArcs arcs)

theorem candidates_eq_expansion (ws : Workspace) (m : MachineRef) (eventId : String) (states : List EntityRef) :
    ws.candidates m eventId false states = ws.expansion (ws.arcsOn m eventId) states := rfl

/-- An arc from `#ALL` adds nothing after another one with its guard: all its keys are bound by then. -/
theorem expansion_without_later (ws : Workspace) (earlier later states : List EntityRef) (w r : EntityRef)
    (hw : w ∈ earlier) (hwleaves : (ws.entity w).leavesAll = true) (hrleaves : (ws.entity r).leavesAll = true)
    (hguard : (ws.entity r).transition.guard = (ws.entity w).transition.guard) :
    ws.expansion (earlier ++ r :: later) states = ws.expansion (earlier ++ later) states := by
  have hconcrete : ws.concreteArcs (earlier ++ r :: later) = ws.concreteArcs (earlier ++ later) := by
    simp [concreteArcs_eq, hrleaves]
  have hwildcards : (earlier ++ r :: later).filter (fun r => (ws.entity r).leavesAll) =
      earlier.filter (fun r => (ws.entity r).leavesAll) ++ r :: later.filter fun r => (ws.entity r).leavesAll := by
    simp [hrleaves]
  have hearlier : w ∈ earlier.filter fun r => (ws.entity r).leavesAll := List.mem_filter.mpr ⟨hw, hwleaves⟩
  rw [expansion, expansion, hconcrete, hwildcards, List.filter_append]
  generalize earlier.filter (fun r => (ws.entity r).leavesAll) = wildcards at hearlier
  have hbound : ∀ p ∈ states.map fun s => (r, s), ws.derivedKey p ∈ Assoc.keys (Assoc.fill ws.derivedKey ws.derivedArc
      (derivations wildcards states) (ws.concreteArcs (earlier ++ later))) := by
    intro p hp
    obtain ⟨s, hs, rfl⟩ := List.mem_map.mp hp
    have hmem := (mem_derivations wildcards states (w, s)).mpr ⟨hearlier, hs⟩
    refine (Assoc.mem_keys_fill _ _ _ _ _).mpr (Or.inr ⟨(w, s), hmem, ?_⟩)
    rw [derivedKey, derivedKey, hguard]
  rw [derivations] at hbound
  rw [derivations, derivations, List.flatMap_append, List.flatMap_append, List.flatMap_cons, Assoc.fill_append,
    Assoc.fill_append, Assoc.fill_append, Assoc.fill_of_bound _ _ _ _ hbound]

section
variable {ws : Workspace} {m : MachineRef} {eventId : String} {before after : List EntityRef} {w r : EntityRef}
  (harcs : ws.members m .arc = before ++ r :: after) (hbefore : w ∈ before) (hw : w ∈ ws.wildcardsOn m eventId)
  (hr : r ∈ ws.wildcardsOn m eventId) (hguard : (ws.entity r).transition.guard = (ws.entity w).transition.guard)
include harcs hbefore hw hr hguard

theorem candidateArcs_without_later :
    (ws.withArcs m (before ++ after)).candidateArcs m eventId false = ws.candidateArcs m eventId false := by
  have hm : m.index < ws.machines.length := lt_of_mem_members ws m .arc r (by simp [harcs])
  obtain ⟨hw, hwleaves⟩ := List.mem_filter.mp hw
  obtain ⟨hr, hrleaves⟩ := List.mem_filter.mp hr
  have harcsOn : ws.arcsOn m eventId =
      before.filter (fun r => (ws.entity r).isOn eventId) ++ r :: after.filter fun r => (ws.entity r).isOn eventId := by
    rw [arcsOn, harcs, List.filter_append]
    exact congrArg _ (List.filter_cons_of_pos (List.mem_filter.mp hr).2)
  have hothers : (ws.withArcs m (before ++ after)).arcsOn m eventId =
      before.filter (fun r => (ws.entity r).isOn eventId) ++ after.filter fun r => (ws.entity r).isOn eventId := by
    rw [arcsOn, members_withArcs_arc ws m _ hm, ← List.filter_append]
    rfl
  have hearlier : w ∈ before.filter fun r => (ws.entity r).isOn eventId :=
    List.mem_filter.mpr ⟨hbefore, (List.mem_filter.mp hw).2⟩
  rw [candidateArcs_eq, candidateArcs_eq, candidates_eq_expansion, candidates_eq_expansion, harcsOn, hothers,
    expansion_without_later ws _ _ _ w r hearlier hwleaves hrleaves hguard,
    members_withArcs_ne ws m _ .state (by decide)]
  rfl

theorem arcsForEvent_without_later : (ws.withArcs m (before ++ after)).arcsForEvent m eventId false =
    ((ws.arcsForEvent m eventId false).1, (ws.arcsForEvent m eventId false).2.withArcs m (before ++ after)) := by
  have hbare := bare_renumber ws m
  have htransition : ∀ r, ((ws.renumber m).entity r).transition = (ws.entity r).transition := fun r => by
    rw [← Entity.transition_unnumbered, unnumbered_of_bare_eq hbare, Entity.transition_unnumbered]
  apply arcsForEvent_withArcs
  apply candidateArcs_without_later (w := w) (r := r)
  · rw [members_of_bare_eq hbare, harcs]
  · exact hbefore
  · rwa [wildcardsOn_renumber]
  · rwa [wildcardsOn_renumber]
  · rw [htransition, htransition, hguard]

end

/-! ## All views of the arcs from `#ALL` -/

/-- There is a first arc from `#ALL` on an event unless none on the event leaves it, and then nothing is expanded. Any
derived arc comes from the first one with its guard, and arcs from `#ALL` after that with the same guard may as well not
be there. -/
theorem wildcards_agree (ws : Workspace) (m : MachineRef) (eventId : String) :
    (ws.allStateArc? m eventId = none ↔ ∀ r ∈ ws.members m .arc, (ws.entity r).isOn eventId = true →
      ∀ id, (ws.entity r).transition.fromId = some id → Text.upper id ≠ allStateId) ∧
    (ws.allStateArc? m eventId = none → ws.arcsForEvent m eventId false = ws.arcsForEvent m eventId true) ∧
    (∀ e, .derived e ∈ (ws.arcsForEvent m eventId false).1 →
      (∃ w s, ws.firstWildcard? m eventId e.transition.guard = some w ∧ s ∈ ws.members m .state ∧
        e = (ws.entity w).derivedFor (ws.entity s)) ∧
      ∀ w, ws.allStateArc? m eventId = some w → e.transition.guard = (ws.entity w).transition.guard →
        ∃ s ∈ ws.members m .state, e = (ws.entity w).derivedFor (ws.entity s)) ∧
    ∀ before r after w, ws.members m .arc = before ++ r :: after → w ∈ before → w ∈ ws.wildcardsOn m eventId →
      r ∈ ws.wildcardsOn m eventId → (ws.entity r).transition.guard = (ws.entity w).transition.guard →
      (ws.withArcs m (before ++ after)).arcsForEvent m eventId false =
        ((ws.arcsForEvent m eventId false).1, (ws.arcsForEvent m eventId false).2.withArcs m (before ++ after)) := by
  refine ⟨?_, arcsForEvent_of_no_wildcard, fun e he => ?_, fun before r after w => arcsForEvent_without_later⟩
  · simp only [allStateArc?, List.find?_eq_none, Bool.and_eq_true, not_and, leavesAll_eq_true_iff, not_exists, ne_eq]
  · obtain ⟨w, s, hfirst, hs, heq⟩ := origin_of_derived he
    refine ⟨⟨w, s, hfirst, hs, heq⟩, fun v hall hguard => ⟨s, hs, ?_⟩⟩
    rw [hguard, firstWildcard?_of_allStateArc? hall] at hfirst
    rw [Option.some.inj hfirst, heq]

/-- Three arcs from `#ALL` on one event, spelled in three ways. Two of them have the same guard, and the later one of
these goes nowhere. -/
def overlapping : Workspace := filled "m"
  [{ id := "s1", detail := .state [] [] none }, { id := "s2", detail := .state [] [] none },
   { id := "go", detail := .event none }, { id := "stop", detail := .event none },
   { id := "first", detail := .arc { fromId := some "#ALL", toId := some "#ALL", eventId := some "go" } },
   { id := "guarded", detail := .arc
      { fromId := some "#all", toId := some "s1", eventId := some "GO", guard := some "ready" } },
   { id := "later", detail := .arc { fromId := some "#All", toId := some "nowhere", eventId := some "go" } },
   { id := "plain", detail := .arc { fromId := some "s1", toId := some "s2", eventId := some "stop" } }]

theorem wildcards_agree_overlapping :
    overlapping.arcsForEvent ⟨0⟩ "stop" false = overlapping.arcsForEvent ⟨0⟩ "stop" true ∧
      (overlapping.withArcs ⟨0⟩ [⟨5⟩, ⟨6⟩, ⟨8⟩]).arcsForEvent ⟨0⟩ "go" false =
        ((overlapping.arcsForEvent ⟨0⟩ "go" false).1,
          (overlapping.arcsForEvent ⟨0⟩ "go" false).2.withArcs ⟨0⟩ [⟨5⟩, ⟨6⟩, ⟨8⟩]) ∧
      ∃ e s, .derived e ∈ (overlapping.arcsForEvent ⟨0⟩ "go" false).1 ∧ s ∈ overlapping.members ⟨0⟩ .state ∧
        e = (overlapping.entity ⟨5⟩).derivedFor (overlapping.entity s) := by
  obtain ⟨_, _, horigin, hlater⟩ := wildcards_agree overlapping ⟨0⟩ "go"
  have hderived : ∃ a ∈ (overlapping.arcsForEvent ⟨0⟩ "go" false).1,
      a.ref? = none ∧ (overlapping.firing a).transition.guard = none := by decide +kernel
  refine ⟨(wildcards_agree overlapping ⟨0⟩ "stop").2.1 (by decide +kernel), ?_, ?_⟩
  · exact hlater [⟨5⟩, ⟨6⟩] ⟨7⟩ [⟨8⟩] ⟨5⟩ (by decide +kernel) (by decide +kernel) (by decide +kernel)
      (by decide +kernel) (by decide +kernel)
  · obtain ⟨a, ha, href, hguard⟩ := hderived
    cases a with
    | declared r => cases href
    | derived e =>
      obtain ⟨s, hs, heq⟩ := (horigin e ha).2 ⟨5⟩ (by decide +kernel) (hguard.trans (by decide +kernel))
      exact ⟨e, s, ha, hs, heq⟩

/-- Four arcs fire: one without a guard and one with it from each state. -/
example : ((overlapping.arcsForEvent ⟨0⟩ "go" false).1.map fun a => (overlapping.firing a).id) =
    ["first_s1", "guarded_s1", "first_s2", "guarded_s2"] := by decide +kernel

end StateMachine.Workspace
