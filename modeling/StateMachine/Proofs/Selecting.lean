import StateMachine.Selection

/-!
# The events that are selected

A selection keeps events of the machine, each at most once and in the order of their addition. What is selected depends
on their ids and types only, and is selected again.
-/

namespace StateMachine.Workspace

section
variable {α : Type} (p : α → Except Fault Bool)

/-- Whether a test says yes. One that fails does not. -/
def saysYes (x : α) : Bool := (p x).toOption.getD false

theorem filterAuxM_eq_ok_iff (xs acc kept : List α) : List.filterAuxM p xs acc = .ok kept ↔
    (∀ x ∈ xs, ∃ keep, p x = .ok keep) ∧ kept = (xs.filter (saysYes p)).reverse ++ acc := by
  induction xs generalizing acc with
  | nil => simpa [List.filterAuxM] using ⟨fun h => (Except.ok.inj h).symm, fun h => congrArg Except.ok h.symm⟩
  | cons x xs ih =>
    rw [List.filterAuxM]
    cases hx : p x with
    | error fault =>
      refine iff_of_false (fun h => by cases h) fun h => ?_
      obtain ⟨keep, hkeep⟩ := h.1 x List.mem_cons_self
      rw [hx] at hkeep
      cases hkeep
    | ok keep =>
      have hsays : saysYes p x = keep := by
        rw [saysYes, hx]
        rfl
      have hrest := ih (bif keep then x :: acc else acc)
      rw [List.forall_mem_cons, and_assoc, List.filter_cons, hsays]
      refine Iff.trans hrest ?_
      cases keep with
      | true => simp [hx]
      | false => simp [hx]

theorem filterM_eq_ok_iff (xs kept : List α) : xs.filterM p = .ok kept ↔
    (∀ x ∈ xs, ∃ keep, p x = .ok keep) ∧ kept = xs.filter (saysYes p) := by
  have haux := filterAuxM_eq_ok_iff p xs []
  unfold List.filterM
  cases hresult : List.filterAuxM p xs [] with
  | error fault =>
    refine iff_of_false (fun h => by cases h) fun h => ?_
    rw [(haux _).mpr ⟨h.1, rfl⟩] at hresult
    cases hresult
  | ok found =>
    obtain ⟨hall, rfl⟩ := (haux found).mp hresult
    rw [List.append_nil]
    constructor
    · intro h
      rw [← Except.ok.inj h]
      exact ⟨hall, List.reverse_reverse _⟩
    · rintro ⟨_, rfl⟩
      exact congrArg Except.ok (List.reverse_reverse _)

theorem filterAuxM_eq_error_iff (xs acc : List α) (fault : Fault) : List.filterAuxM p xs acc = .error fault ↔
    ∃ before x after, xs = before ++ x :: after ∧ (∀ y ∈ before, ∃ keep, p y = .ok keep) ∧ p x = .error fault := by
  induction xs generalizing acc with
  | nil => simpa [List.filterAuxM] using fun h => nomatch h
  | cons x xs ih =>
    rw [List.filterAuxM]
    cases hx : p x with
    | error first =>
      constructor
      · intro h
        rw [← Except.error.inj h]
        exact ⟨[], x, xs, rfl, List.forall_mem_nil _, hx⟩
      · rintro ⟨before, y, after, hsplit, hbefore, hy⟩
        -- Nothing before the first failure fails, so it is the same one.
        cases before with
        | nil =>
          obtain ⟨rfl, _⟩ := List.cons.inj hsplit
          rw [← hx, hy]
          rfl
        | cons z before =>
          obtain ⟨rfl, _⟩ := List.cons.inj hsplit
          obtain ⟨keep, hkeep⟩ := hbefore x List.mem_cons_self
          rw [hx] at hkeep
          cases hkeep
    | ok keep =>
      refine (ih (bif keep then x :: acc else acc)).trans ?_
      constructor
      · rintro ⟨before, y, after, rfl, hbefore, hy⟩
        exact ⟨x :: before, y, after, rfl, List.forall_mem_cons.mpr ⟨⟨keep, hx⟩, hbefore⟩, hy⟩
      · rintro ⟨before, y, after, hsplit, hbefore, hy⟩
        cases before with
        | nil =>
          obtain ⟨rfl, _⟩ := List.cons.inj hsplit
          rw [hx] at hy
          cases hy
        | cons z before =>
          obtain ⟨rfl, rfl⟩ := List.cons.inj hsplit
          exact ⟨before, y, after, rfl, (List.forall_mem_cons.mp hbefore).2, hy⟩

theorem filterM_eq_error_iff (xs : List α) (fault : Fault) : xs.filterM p = .error fault ↔
    ∃ before x after, xs = before ++ x :: after ∧ (∀ y ∈ before, ∃ keep, p y = .ok keep) ∧ p x = .error fault := by
  rw [← filterAuxM_eq_error_iff p xs [] fault]
  unfold List.filterM
  cases List.filterAuxM p xs [] with
  | error first => rfl
  | ok kept => exact iff_of_false (fun h => nomatch h) fun h => nomatch h

end

theorem matchingEvents_sublist (ws : Workspace) (m : MachineRef) (specifiers : List String)
    (events : List EntityRef) (h : ws.matchingEvents m specifiers = .ok events) :
    events.Sublist (ws.members m .event) := by
  unfold matchingEvents at h
  split at h
  · obtain rfl := Except.ok.inj h
    exact List.Sublist.refl _
  · rw [((filterM_eq_ok_iff _ _ _).mp h).2]
    exact List.filter_sublist

/-- If a machine has just the events that were selected in another one, all of them are selected. -/
theorem matchingEvents_of_selected {ws later : Workspace} {m clone : MachineRef} {specifiers : List String}
    {events : List EntityRef} (hselected : ws.matchingEvents m specifiers = .ok events)
    (hmembers : later.members clone .event = events)
    (hids : ∀ r ∈ events, (later.entity r).id = (ws.entity r).id)
    (htypes : ∀ r ∈ events, (later.entity r).eventType = (ws.entity r).eventType) :
    later.matchingEvents clone specifiers = .ok events := by
  unfold matchingEvents at hselected ⊢
  rw [hmembers]
  split
  case isTrue => rfl
  case isFalse hsome =>
    rw [if_neg hsome] at hselected
    obtain ⟨hall, hkept⟩ := (filterM_eq_ok_iff _ _ _).mp hselected
    have htest : ∀ r ∈ events, eventMatches (later.entity r).id (later.entity r).eventType (.split specifiers) =
        .ok true := by
      intro r hr
      rw [hids r hr, htypes r hr]
      rw [hkept, List.mem_filter] at hr
      obtain ⟨keep, hkeep⟩ := hall r hr.1
      have hyes := hr.2
      rw [saysYes, hkeep] at hyes
      rw [hkeep, ← hyes]
      rfl
    refine (filterM_eq_ok_iff _ _ _).mpr ⟨fun r hr => ⟨true, htest r hr⟩, (List.filter_eq_self.mpr fun r hr => ?_).symm⟩
    rw [saysYes, htest r hr]
    rfl

end StateMachine.Workspace
