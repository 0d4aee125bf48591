import StateMachine.Proofs.Bracketing
import StateMachine.Proofs.Finding

/-!
# Exits that read alike

Where all references resolve, a check reports arcs that leave one state on the same event and guard. It also reports
arcs of one state that leave on different events which read alike, and no others.
-/

namespace StateMachine.Workspace

/-! ## Exits of arcs -/

/-- Two arcs leave by the same id, and what one leaves on reads like the event of the other, though it is not. -/
def Confused (ws : Workspace) (r s : EntityRef) : Prop :=
  (ws.entity r).transition.fromId = (ws.entity s).transition.fromId ∧
    ∃ event event', (ws.entity r).transition.eventId = some event ∧ (ws.entity s).transition.eventId = some event' ∧
      (Overruns event (ws.entity r).transition.guard event' (ws.entity s).transition.guard ∨
        Overruns event' (ws.entity s).transition.guard event (ws.entity r).transition.guard)

/-- No arc is on an event with a bracket in its id. -/
def PlainEvents (ws : Workspace) (m : MachineRef) : Prop :=
  ∀ r ∈ ws.members m .arc, ∀ event, (ws.entity r).transition.eventId = some event → '[' ∉ event.toList

instance (ws : Workspace) : DecidableRel ws.SameExit := fun _ _ => inferInstanceAs (Decidable (_ ∧ _ ∧ _))

section
variable {ws : Workspace} {m : MachineRef} (hrefs : ∀ x ∈ ws.references m, ¬ ws.Stray m x)
include hrefs

theorem not_stray_of_mem (r : EntityRef) (hr : r ∈ ws.members m .arc) (role : Role) : ¬ ws.Stray m (r, role) := by
  refine hrefs _ (List.mem_flatMap.mpr ⟨r, hr, List.mem_map_of_mem ?_⟩)
  cases role <;> simp

theorem exitOf_eq_iff (r s : EntityRef) (hr : r ∈ ws.members m .arc) (hs : s ∈ ws.members m .arc) :
    ws.exitOf r = ws.exitOf s ↔ ws.SameExit r s ∨ ws.Confused r s := by
  have hnamed : ∀ t ∈ ws.members m .arc, ∀ role : Role, ∃ id, role.reference (ws.entity t).transition = some id :=
    fun t ht role => by
      obtain ⟨id, _, hid, _⟩ := ws.resolves_of_not_stray m t role (not_stray_of_mem hrefs t ht role)
      exact ⟨id, hid⟩
  obtain ⟨from', hfrom⟩ := hnamed r hr .origin
  obtain ⟨from'', hfrom'⟩ := hnamed s hs .origin
  obtain ⟨event, hevent⟩ := hnamed r hr .event
  obtain ⟨event', hevent'⟩ := hnamed s hs .event
  dsimp only [Role.reference] at hfrom hfrom' hevent hevent'
  rw [exitOf, exitOf, eventKey_eq, eventKey_eq, SameExit, Confused, hfrom, hfrom', hevent, hevent', Prod.mk.injEq]
  simp only [Option.getD_some, text_eq_iff, Option.some.injEq, exists_and_left, exists_eq_left', ← and_or_left]

end

/-- Where no event has a bracket in its id, no arcs are confused. -/
theorem not_confused_of_plain {ws : Workspace} {m : MachineRef} (hplain : ws.PlainEvents m) (r s : EntityRef)
    (hr : r ∈ ws.members m .arc) (hs : s ∈ ws.members m .arc) : ¬ ws.Confused r s := by
  rintro ⟨_, event, event', hevent, hevent', hover | hover⟩
  · exact hplain s hs event' hevent' hover.bracket_mem
  · exact hplain r hr event hevent hover.bracket_mem

/-! ## What is reported -/

section
variable {ws : Workspace} {m : MachineRef} (hrefs : ∀ x ∈ ws.references m, ¬ ws.Stray m x)
include hrefs

theorem referenceError?_eq_none_of_refs (r : EntityRef) (hr : r ∈ ws.members m .arc) (role : Role) :
    ws.referenceError? m (ws.entity r) role = none := by
  have hstray := not_stray_of_mem hrefs r hr role
  rwa [stray_iff, Option.not_isSome_iff_eq_none] at hstray

theorem errors_eq_collisions :
    (ws.check m).1.errors = (ws.collisions m).map fun group => ws.collisionError group.1 group.2 := by
  have hnone := (referenceErrors_eq_nil_iff ws m).mpr (referenceError?_eq_none_of_refs hrefs)
  have herrors : ws.errors m = _ ++ (ws.collisions m).map fun group => ws.collisionError group.1 group.2 := rfl
  rw [check_eq_examine, examine, herrors, hnone, List.nil_append]

theorem errors_eq_nil_iff : (ws.check m).1.errors = [] ↔
    (ws.members m .arc).Pairwise fun r s => ¬ (ws.SameExit r s ∨ ws.Confused r s) := by
  rw [← List.isEmpty_iff, ← Report.isValid, isValid_iff, and_iff_right (referenceError?_eq_none_of_refs hrefs),
    List.Nodup, List.pairwise_map]
  exact List.Pairwise.iff_of_mem fun hr hs => not_congr (exitOf_eq_iff hrefs _ _ hr hs)

theorem reported_together_iff (r s : EntityRef) : (∃ group ∈ ws.collisions m, [r, s].Sublist group.2) ↔
    [r, s].Sublist (ws.members m .arc) ∧ (ws.SameExit r s ∨ ws.Confused r s) := by
  constructor
  · rintro ⟨⟨key, arcs⟩, hgroup, hpair⟩
    obtain ⟨_, rfl⟩ := (ws.mem_collisions_iff m key arcs).mp hgroup
    have hexit : ∀ t ∈ [r, s], ws.exitOf t = key := fun t ht =>
      ((ws.exitKey?_eq_some_iff m t key).mp (of_decide_eq_true (List.mem_filter.mp (hpair.subset ht)).2)).2
    have hpair := hpair.trans List.filter_sublist
    refine ⟨hpair, (exitOf_eq_iff hrefs r s (hpair.subset (by simp)) (hpair.subset (by simp))).mp ?_⟩
    rw [hexit r (by simp), hexit s (by simp)]
  · rintro ⟨hpair, hsame⟩
    have hr : r ∈ ws.members m .arc := hpair.subset (by simp)
    have hs : s ∈ ws.members m .arc := hpair.subset (by simp)
    exact ws.collide_of_exitOf_eq m r s hpair (not_stray_of_mem hrefs r hr .origin)
      (not_stray_of_mem hrefs s hs .origin) ((exitOf_eq_iff hrefs r s hr hs).mpr hsame).symm

end

/-- Where all references resolve, a check reports exits that are shared, and nothing else. Two arcs are reported together
exactly if they leave on the same event and guard or are taken to do so. Without brackets in the ids of events no arcs
are confused. -/
theorem collide_iff (ws : Workspace) (m : MachineRef) (hrefs : ∀ x ∈ ws.references m, ¬ ws.Stray m x) :
    (ws.check m).1.errors = (ws.collisions m).map (fun group => ws.collisionError group.1 group.2) ∧
    (∀ r s, (∃ group ∈ ws.collisions m, [r, s].Sublist group.2) ↔
      [r, s].Sublist (ws.members m .arc) ∧ (ws.SameExit r s ∨ ws.Confused r s)) ∧
    ((ws.check m).1.errors = [] ↔ (ws.members m .arc).Pairwise fun r s => ¬ (ws.SameExit r s ∨ ws.Confused r s)) ∧
    (ws.PlainEvents m → (∀ group ∈ ws.collisions m, group.2.Pairwise ws.SameExit) ∧
      ((ws.members m .arc).Pairwise (fun r s => ¬ ws.SameExit r s) → (ws.check m).1.errors = [])) := by
  refine ⟨errors_eq_collisions hrefs, reported_together_iff hrefs, errors_eq_nil_iff hrefs, fun hplain => ⟨?_, ?_⟩⟩
  · intro group hgroup
    rw [List.pairwise_iff_forall_sublist]
    intro r s hpair
    obtain ⟨hmembers, hsame⟩ := (reported_together_iff hrefs r s).mp ⟨group, hgroup, hpair⟩
    exact hsame.resolve_right
      (not_confused_of_plain hplain r s (hmembers.subset (by simp)) (hmembers.subset (by simp)))
  · intro hdistinct
    refine (errors_eq_nil_iff hrefs).mpr (hdistinct.imp_of_mem fun hr hs hne => ?_)
    exact not_or.mpr ⟨hne, not_confused_of_plain hplain _ _ hr hs⟩

/-- Two arcs from one state: on an event with a guard, and on an event whose id reads like this. -/
def bracketed : Workspace := filled "m"
  [{ id := "s", detail := .state [] [] none }, { id := "go", detail := .event none },
   { id := "go[x]", detail := .event none },
   { id := "a", detail := .arc
      { fromId := some "s", toId := some "s", eventId := some "go", guard := some "x" } },
   { id := "b", detail := .arc { fromId := some "s", toId := some "s", eventId := some "go[x]" } }]

theorem collide_iff_bracketed : (bracketed.check ⟨0⟩).1.errors ≠ [] ∧
    ∃ group ∈ bracketed.collisions ⟨0⟩, [⟨4⟩, ⟨5⟩].Sublist group.2 := by
  have hconfused : bracketed.Confused ⟨4⟩ ⟨5⟩ :=
    ⟨by decide +kernel, "go", "go[x]", by decide +kernel, by decide +kernel,
      Or.inl ⟨"x", "x]", by decide +kernel, by decide +kernel, by decide +kernel⟩⟩
  have hpair : [⟨4⟩, ⟨5⟩].Sublist (bracketed.members ⟨0⟩ .arc) := by decide +kernel
  obtain ⟨_, htogether, hnone, _⟩ := collide_iff bracketed ⟨0⟩ (by decide +kernel)
  refine ⟨fun herrors => ?_, (htogether ⟨4⟩ ⟨5⟩).mpr ⟨hpair, Or.inr hconfused⟩⟩
  exact List.pairwise_iff_forall_sublist.mp (hnone.mp herrors) hpair (Or.inr hconfused)

/-- All references of the machine resolve, and its arcs leave on different events; yet they are reported. -/
theorem not_sameExit_bracketed :
    ¬ ∀ (ws : Workspace) (m : MachineRef), ws.Reachable → (∀ x ∈ ws.references m, ¬ ws.Stray m x) →
      (∀ group ∈ ws.collisions m, group.2.Pairwise ws.SameExit) ∧
        ((ws.members m .arc).Pairwise (fun r s => ¬ ws.SameExit r s) → (ws.check m).1.errors = []) := by
  intro h
  obtain ⟨_, hdistinct⟩ := h bracketed ⟨0⟩ (reachable_filled _ _) (by decide +kernel)
  have hvalid : (bracketed.check ⟨0⟩).1.isValid = true := List.isEmpty_iff.mpr (hdistinct (by decide +kernel))
  exact absurd hvalid (by decide +kernel)

end StateMachine.Workspace
