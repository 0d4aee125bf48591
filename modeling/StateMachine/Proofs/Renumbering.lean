import StateMachine.Proofs.Resolving

/-!
# What resolving changes

Resolving an event numbers the states of one machine anew and reports on that machine. Nothing else changes, and since
the numbers are made anew each time, neither change is seen by a later resolution.
-/

namespace StateMachine

@[simp]
theorem Entity.withNumber_unnumbered (e : Entity) (n : Option Int) : e.unnumbered.withNumber n = e.withNumber n := by
  cases hd : e.detail <;> simp [unnumbered, withNumber, hd]

namespace Workspace

/-! ## Numbering twice -/

/-- A new number covers the old one. -/
theorem entity_modifyEntity_number (ws : Workspace) (r : EntityRef) (n : Option Int) :
    (ws.modifyEntity r fun e => e.withNumber n).entity r = (ws.entity r).unnumbered.withNumber n := by
  rw [Entity.withNumber_unnumbered]
  by_cases h : r.index < ws.entities.length
  · exact entity_modifyEntity_self ws r _ h
  · rw [entity_eq, entity_eq, List.getElem?_eq_none (by simpa using h), List.getElem?_eq_none (by omega)]
    rfl

theorem entity_modifyEntity_of_unnumbered {ws ws' : Workspace} (r : EntityRef) (n : Option Int)
    (hnumbered : (ws'.entity r).unnumbered = (ws.entity r).unnumbered) (s : EntityRef)
    (h : s ≠ r → ws'.entity s = ws.entity s) :
    (ws'.modifyEntity r fun e => e.withNumber n).entity s = (ws.modifyEntity r fun e => e.withNumber n).entity s := by
  by_cases hs : s = r
  · rw [hs, entity_modifyEntity_number, entity_modifyEntity_number, hnumbered]
  · rw [entity_modifyEntity_ne ws' r s _ hs, entity_modifyEntity_ne ws r s _ hs, h hs]

theorem unnumbered_modifyEntity (ws : Workspace) (r s : EntityRef) (n : Option Int) :
    ((ws.modifyEntity r fun e => e.withNumber n).entity s).unnumbered = (ws.entity s).unnumbered :=
  entity_modifyEntity_congr Entity.unnumbered ws r s _ fun e => e.unnumbered_withNumber n

/-- Where all states of a list are numbered, their old numbers do not matter. -/
theorem entity_numberFrom_of_unnumbered (states : List EntityRef) (k : Nat) (ws ws' : Workspace)
    (hnumbered : ∀ r ∈ states, (ws'.entity r).unnumbered = (ws.entity r).unnumbered) (r : EntityRef)
    (h : r ∉ states → ws'.entity r = ws.entity r) :
    (ws'.numberFrom k states).entity r = (ws.numberFrom k states).entity r := by
  induction states generalizing ws ws' k with
  | nil => exact h (by simp)
  | cons s rest ih =>
    obtain ⟨hs, hrest⟩ := List.forall_mem_cons.mp hnumbered
    refine ih (k + 1) _ _ ?_ ?_
    · intro t ht
      rw [unnumbered_modifyEntity, unnumbered_modifyEntity, hrest t ht]
    · intro hr
      exact entity_modifyEntity_of_unnumbered s _ hs r fun hne => h (by simp [hne, hr])

theorem entity_numberFrom_of_not_mem (states : List EntityRef) (k : Nat) (ws : Workspace) (r : EntityRef)
    (h : r ∉ states) : (ws.numberFrom k states).entity r = ws.entity r := by
  induction states generalizing ws k with
  | nil => rfl
  | cons s rest ih =>
    rw [List.mem_cons, not_or] at h
    exact (ih (k + 1) _ h.2).trans (entity_modifyEntity_ne ws s r _ h.1)

theorem unnumbered_numberFrom (states : List EntityRef) (k : Nat) (ws : Workspace) (r : EntityRef) :
    ((ws.numberFrom k states).entity r).unnumbered = (ws.entity r).unnumbered := by
  induction states generalizing ws k with
  | nil => rfl
  | cons s rest ih => exact (ih (k + 1) _).trans (unnumbered_modifyEntity ws s r _)

/-! ## What stays -/

/-- Nothing has changed but the numbers of the states of a machine, the journal, and that warnings about the machine
were added. -/
structure Renumbered (ws ws' : Workspace) (m : MachineRef) : Prop where
  bare_eq : ws'.bare = ws.bare
  entity_eq : ∀ r, r ≠ (ws.machine m).allState → r ∉ ws.members m .state → ws'.entity r = ws.entity r
  machine_eq : ∀ n, n ≠ m → ws'.machine n = ws.machine n
  warnings_eq : ∃ more, (ws'.machine m).warnings = (ws.machine m).warnings ++ more

namespace Renumbered

variable {ws ws' : Workspace} {m : MachineRef}

theorem refl : Renumbered ws ws m := ⟨rfl, fun _ _ _ => rfl, fun _ _ => rfl, [], (List.append_nil _).symm⟩

theorem trans {ws'' : Workspace} (h : Renumbered ws ws' m) (h' : Renumbered ws' ws'' m) : Renumbered ws ws'' m := by
  obtain ⟨more, hmore⟩ := h.warnings_eq
  obtain ⟨later, hlater⟩ := h'.warnings_eq
  refine ⟨h'.bare_eq.trans h.bare_eq, ?_, ?_, more ++ later, ?_⟩
  · intro r hall hr
    rw [h'.entity_eq r (by rwa [allState_of_bare_eq h.bare_eq]) (by rwa [members_of_bare_eq h.bare_eq]),
      h.entity_eq r hall hr]
  · intro n hn
    rw [h'.machine_eq n hn, h.machine_eq n hn]
  · rw [hlater, hmore, List.append_assoc]

/-- An arc has no number. -/
theorem arc_eq (h : Renumbered ws ws' m) (r : EntityRef) (hr : ws.kindOf r = .arc) : ws'.entity r = ws.entity r := by
  have hr' : ws'.kindOf r = .arc := by rw [kindOf_of_bare_eq h.bare_eq, hr]
  rw [← Entity.unnumbered_of_arc _ hr, ← unnumbered_of_bare_eq h.bare_eq, Entity.unnumbered_of_arc _ hr']

end Renumbered

theorem machine_renumber (ws : Workspace) (m n : MachineRef) : (ws.renumber m).machine n = ws.machine n := by
  rw [renumber_eq]
  exact machine_numberFrom ws 1 _ n

theorem renumbered_renumber (ws : Workspace) (m : MachineRef) : Renumbered ws (ws.renumber m) m := by
  refine ⟨bare_renumber ws m, ?_, fun n _ => machine_renumber ws m n, [], ?_⟩
  · intro r hall hr
    rw [renumber_eq, entity_modifyEntity_ne _ _ _ _ hall, entity_numberFrom_of_not_mem _ _ _ _ hr]
  · rw [machine_renumber, List.append_nil]

theorem renumbered_report (ws : Workspace) (m : MachineRef) (d : Diagnostic) : Renumbered ws (ws.report m d) m := by
  refine ⟨bare_report ws m d, fun _ _ _ => rfl, fun n hn => machine_modifyMachine_ne ws m n _ hn, ?_⟩
  by_cases hm : m.index < ws.machines.length
  · exact ⟨[d], congrArg Machine.warnings (machine_modifyMachine_self ws m _ hm)⟩
  · refine ⟨[], ?_⟩
    have hout : (ws.report m d).machine m = ws.machine m := by
      rw [machine_eq, machine_eq, List.getElem?_eq_none (by simpa [report, modifyMachine] using hm),
        List.getElem?_eq_none (Nat.le_of_not_lt hm)]
    rw [List.append_nil, hout]

theorem renumbered_reportAll (ws : Workspace) (m : MachineRef) (ds : List Diagnostic) :
    Renumbered ws (ws.reportAll m ds) m := by
  induction ds generalizing ws with
  | nil => exact .refl
  | cons d rest ih => exact (renumbered_report ws m d).trans (ih (ws.report m d))

theorem renumbered_arcsForEvent (ws : Workspace) (m : MachineRef) (eventId : String) (raw : Bool) :
    Renumbered ws (ws.arcsForEvent m eventId raw).2 m :=
  (renumbered_renumber ws m).trans (renumbered_reportAll _ m _)

theorem entities_arcsForEvent (ws : Workspace) (m : MachineRef) (eventId : String) (raw : Bool) :
    (ws.arcsForEvent m eventId raw).2.entities = (ws.renumber m).entities := by
  have hreports : ∀ (ds : List Diagnostic) (ws : Workspace), (ws.reportAll m ds).entities = ws.entities := by
    intro ds
    induction ds with
    | nil => exact fun _ => rfl
    | cons d rest ih => exact fun ws => ih (ws.report m d)
  rw [arcsForEvent]
  exact hreports _ _

/-! ## What is not seen -/

theorem originNumber_of_bare_eq {ws ws' : Workspace} (h : ws'.bare = ws.bare) (hnumber : ws'.numberOf = ws.numberOf) :
    ws'.originNumber = ws.originNumber := by
  funext a
  rw [originNumber_eq, hnumber, ← endpoints?_firing_bare, h, endpoints?_firing_bare, originNumber_eq]

section
variable {ws ws' : Workspace} {m : MachineRef} (h : Renumbered ws ws' m)
include h

theorem Renumbered.entity_renumber_eq (r : EntityRef) : (ws'.renumber m).entity r = (ws.renumber m).entity r := by
  have hsame := unnumbered_of_bare_eq h.bare_eq
  rw [renumber_eq, renumber_eq, allState_of_bare_eq h.bare_eq, members_of_bare_eq h.bare_eq]
  refine entity_modifyEntity_of_unnumbered _ _ ?_ r fun hall => ?_
  · rw [unnumbered_numberFrom, unnumbered_numberFrom, hsame]
  · exact entity_numberFrom_of_unnumbered _ _ _ _ (fun s _ => hsame s) r (h.entity_eq r hall)

/-- What fires does not depend on numbers and warnings of an earlier time. -/
theorem Renumbered.arcsForEvent_eq (eventId : String) (raw : Bool) :
    (ws'.arcsForEvent m eventId raw).1 = (ws.arcsForEvent m eventId raw).1 := by
  have hbare : (ws'.renumber m).bare = (ws.renumber m).bare := by
    rw [bare_renumber, h.bare_eq, bare_renumber]
  have hnumber : (ws'.renumber m).numberOf = (ws.renumber m).numberOf := by
    funext r
    rw [numberOf, h.entity_renumber_eq, numberOf]
  have hstates : (ws'.states m).1 = (ws.states m).1 := by
    simp only [states, byNumber, hnumber, members_of_bare_eq hbare]
  rw [arcsForEvent_eq_sorted, arcsForEvent_eq_sorted, originNumber_of_bare_eq hbare hnumber, hstates, ← found_bare,
    h.bare_eq, found_bare]

end

end Workspace

end StateMachine
