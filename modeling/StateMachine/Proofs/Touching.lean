import Mathlib.Data.List.Induction
import StateMachine.Extraction

/-!
# The states that arcs touch

Arcs whose endpoints are states touch these, and no others. Each concrete state among them is listed once.
-/

namespace StateMachine.Workspace

/-- Appends the concrete states that are new. -/
def keepStates (ws : Workspace) (states touched : List EntityRef) : List EntityRef :=
  touched.foldl (fun states s =>
    if (ws.entity s).isAllState || states.contains s then states else states ++ [s]) states

theorem mem_keepStates (ws : Workspace) (states touched : List EntityRef) (s : EntityRef) :
    s ∈ ws.keepStates states touched ↔ s ∈ states ∨ (s ∈ touched ∧ (ws.entity s).isAllState = false) := by
  induction touched generalizing states with
  | nil => simp [keepStates]
  | cons t rest ih =>
    rw [keepStates, List.foldl_cons, ← keepStates, ih]
    split
    case isTrue hskip =>
      rw [Bool.or_eq_true, List.contains_iff_mem] at hskip
      constructor
      · exact fun h => h.imp_right fun h => ⟨List.mem_cons_of_mem _ h.1, h.2⟩
      · rintro (h | ⟨h, hs⟩)
        · exact Or.inl h
        · rcases List.mem_cons.mp h with rfl | h
          · exact Or.inl (hskip.resolve_left (by simp [hs]))
          · exact Or.inr ⟨h, hs⟩
    case isFalse hnew =>
      rw [Bool.not_eq_true, Bool.or_eq_false_iff] at hnew
      rw [List.mem_append, List.mem_singleton, List.mem_cons]
      constructor
      · rintro ((h | rfl) | ⟨h, hs⟩)
        · exact Or.inl h
        · exact Or.inr ⟨Or.inl rfl, hnew.1⟩
        · exact Or.inr ⟨Or.inr h, hs⟩
      · rintro (h | ⟨rfl | h, hs⟩)
        · exact Or.inl (Or.inl h)
        · exact Or.inl (Or.inr rfl)
        · exact Or.inr ⟨h, hs⟩

theorem nodup_keepStates (ws : Workspace) (states touched : List EntityRef) (h : states.Nodup) :
    (ws.keepStates states touched).Nodup := by
  induction touched generalizing states with
  | nil => exact h
  | cons t rest ih =>
    rw [keepStates, List.foldl_cons, ← keepStates]
    split
    case isTrue => exact ih states h
    case isFalse hnew =>
      rw [Bool.not_eq_true, Bool.or_eq_false_iff, List.contains_eq_mem, decide_eq_false_iff_not] at hnew
      apply ih
      rw [List.nodup_append]
      refine ⟨h, by simp, ?_⟩
      intro a ha b hb hab
      exact hnew.2 (List.mem_singleton.mp hb ▸ hab ▸ ha)

theorem statesOf_of_endpoints (ws : Workspace) (e : Entity) (f t : EntityRef) (h : ws.endpoints? e = some (f, t)) :
    ∃ touched, ws.statesOf e = .ok touched ∧ ∀ s, s ∈ touched ↔ s = f ∨ s = t := by
  unfold endpoints? at h
  split at h
  case h_1 origin target hf ht =>
    obtain ⟨rfl, rfl⟩ := Prod.mk.inj (Option.some.inj h)
    refine ⟨_, by rw [statesOf, hf, ht]; rfl, fun s => ?_⟩
    simp only [Option.toList_some, List.cons_append, List.nil_append, List.mem_cons, List.mem_filter,
      List.not_mem_nil, or_false, decide_eq_true_eq, ne_eq, Option.some.injEq]
    constructor
    · rintro (rfl | ⟨rfl, _⟩)
      · exact Or.inl rfl
      · exact Or.inr rfl
    · rintro (rfl | rfl)
      · exact Or.inl rfl
      · by_cases hsame : s = origin
        · exact Or.inl hsame
        · exact Or.inr ⟨rfl, fun e => hsame e.symm⟩
  case h_2 => cases h

/-- No look-up fails, and the answer lists each concrete endpoint once. -/
theorem touchedStates_of_endpoints (ws : Workspace) (arcs : List FiringArc)
    (h : ∀ a ∈ arcs, (ws.endpoints? (ws.firing a)).isSome) :
    ∃ touched, ws.touchedStates arcs = .ok touched ∧ touched.Nodup ∧
      ∀ s, s ∈ touched ↔ (ws.entity s).isAllState = false ∧
        ∃ a ∈ arcs, ∃ f t, ws.endpoints? (ws.firing a) = some (f, t) ∧ (s = f ∨ s = t) := by
  induction arcs using List.reverseRecOn with
  | nil => exact ⟨[], rfl, List.nodup_nil, by simp⟩
  | append_singleton arcs a ih =>
    obtain ⟨touched, hok, hnodup, hmem⟩ := ih fun b hb => h b (by simp [hb])
    obtain ⟨⟨f, t⟩, hends⟩ := Option.isSome_iff_exists.mp (h a (by simp))
    obtain ⟨more, hmore, hmoremem⟩ := statesOf_of_endpoints ws _ f t hends
    refine ⟨ws.keepStates touched more, ?_, nodup_keepStates ws touched more hnodup, fun s => ?_⟩
    · rw [touchedStates] at hok ⊢
      rw [List.foldlM_append, hok]
      simp only [List.foldlM_cons, List.foldlM_nil, hmore]
      rfl
    · rw [mem_keepStates, hmem, hmoremem]
      constructor
      · rintro (⟨hs, b, hb, hrest⟩ | ⟨hs, hconcrete⟩)
        · exact ⟨hs, b, by simp [hb], hrest⟩
        · exact ⟨hconcrete, a, by simp, f, t, hends, hs⟩
      · rintro ⟨hconcrete, b, hb, f', t', hends', hs⟩
        rcases List.mem_append.mp hb with hb | hb
        · exact Or.inl ⟨hconcrete, b, hb, f', t', hends', hs⟩
        · rw [List.mem_singleton.mp hb, hends] at hends'
          obtain ⟨rfl, rfl⟩ := Prod.mk.inj (Option.some.inj hends')
          exact Or.inr ⟨hs, hconcrete⟩

end StateMachine.Workspace
