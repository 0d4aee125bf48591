import StateMachine.Machine

/-!
# Lookups in a registry

A lookup finds what is registered under an id, finds nothing, or finds something of another kind than the wanted one.
Which of these it is depends on the id and the kind alone.
-/

namespace StateMachine

namespace Registry

variable (r : Registry) (kindOf : EntityRef → Kind) (id : Option String) (wanted : Option String)

/-- What a lookup answers, as long as it has not looked at the kind. -/
theorem lookup_cases :
    ((∀ i ∈ id, r.find? i = none) ∧ r.lookup kindOf id wanted = .ok none) ∨
    ∃ i e, id = some i ∧ r.find? i = some e ∧
      (((∀ kind ∈ wanted, (kindOf e).name = kind) ∧ r.lookup kindOf id wanted = .ok (some e)) ∨
        ∃ kind, wanted = some kind ∧ (kindOf e).name ≠ kind ∧
          r.lookup kindOf id wanted = .error (.kindMismatch i kind (kindOf e).name)) := by
  cases id with
  | none => exact Or.inl ⟨by simp, rfl⟩
  | some i =>
    cases hfound : r.find? i with
    | none => exact Or.inl ⟨by simpa using hfound, by simp [lookup, hfound]⟩
    | some e =>
      refine Or.inr ⟨i, e, rfl, hfound, ?_⟩
      cases wanted with
      | none => exact Or.inl ⟨by simp, by simp [lookup, hfound]⟩
      | some kind =>
        by_cases hkind : (kindOf e).name = kind
        · exact Or.inl ⟨by simpa using hkind, by simp [lookup, hfound, hkind]⟩
        · exact Or.inr ⟨kind, rfl, hkind, by simp [lookup, hfound, hkind]⟩

theorem lookup_eq_some_iff (e : EntityRef) : r.lookup kindOf id wanted = .ok (some e) ↔
    (∃ i, id = some i ∧ r.find? i = some e) ∧ ∀ kind ∈ wanted, (kindOf e).name = kind := by
  rcases lookup_cases r kindOf id wanted with
    ⟨hnone, heq⟩ | ⟨i, e', rfl, hfound, ⟨hkind, heq⟩ | ⟨kind, rfl, hkind, heq⟩⟩
  · rw [heq]
    refine iff_of_false (by simp) ?_
    rintro ⟨⟨i, rfl, hfound⟩, _⟩
    rw [hnone i rfl] at hfound
    cases hfound
  · rw [heq]
    constructor
    · intro h
      obtain rfl := Option.some.inj (Except.ok.inj h)
      exact ⟨⟨i, rfl, hfound⟩, hkind⟩
    · rintro ⟨⟨_, ⟨rfl⟩, hfound'⟩, _⟩
      rw [← hfound', hfound]
  · rw [heq]
    refine iff_of_false (by simp) ?_
    rintro ⟨⟨_, ⟨rfl⟩, hfound'⟩, hkinds⟩
    rw [hfound] at hfound'
    exact hkind (Option.some.inj hfound' ▸ hkinds kind rfl)

theorem lookup_eq_none_iff : r.lookup kindOf id wanted = .ok none ↔ ∀ i ∈ id, r.find? i = none := by
  rcases lookup_cases r kindOf id wanted with ⟨hnone, heq⟩ | ⟨i, e, rfl, hfound, ⟨_, heq⟩ | ⟨kind, rfl, _, heq⟩⟩
  · exact iff_of_true heq hnone
  · rw [heq]
    exact iff_of_false (by simp) fun h => by simpa [hfound] using h i rfl
  · rw [heq]
    exact iff_of_false (by simp) fun h => by simpa [hfound] using h i rfl

theorem lookup_eq_error_iff (fault : Fault) : r.lookup kindOf id wanted = .error fault ↔
    ∃ i e kind, id = some i ∧ r.find? i = some e ∧ wanted = some kind ∧ (kindOf e).name ≠ kind ∧
      fault = .kindMismatch i kind (kindOf e).name := by
  rcases lookup_cases r kindOf id wanted with ⟨hnone, heq⟩ | ⟨i, e, rfl, hfound, ⟨hkind, heq⟩ | ⟨kind, rfl, hkind, heq⟩⟩
  · rw [heq]
    refine iff_of_false (by simp) ?_
    rintro ⟨i, e, _, rfl, hfound, _⟩
    rw [hnone i rfl] at hfound
    cases hfound
  · rw [heq]
    refine iff_of_false (by simp) ?_
    rintro ⟨_, e', kind, ⟨rfl⟩, hfound', rfl, hother, _⟩
    rw [hfound] at hfound'
    exact hother (Option.some.inj hfound' ▸ hkind kind rfl)
  · rw [heq]
    constructor
    · intro h
      exact ⟨i, e, kind, rfl, hfound, rfl, hkind, (Except.error.inj h).symm⟩
    · rintro ⟨_, e', _, ⟨rfl⟩, hfound', ⟨rfl⟩, _, rfl⟩
      rw [hfound] at hfound'
      rw [Option.some.inj hfound']

end Registry

end StateMachine
