import StateMachine.Check

/-!
# Events with guards in brackets

A check compares event and guard of an arc by one text: the event, and after it the guard in brackets. As nothing is
escaped, an event with its guard may read like another event whose id has brackets.
-/

namespace StateMachine.Workspace

/-- A guard as it stands after its event. -/
def guardText (guard : Option String) : String := (guard.map fun g => s!"[{g}]").getD ""

theorem eventKey_eq (t : Transition) : eventKey t = t.eventId.getD "" ++ guardText t.guard := rfl

/-- An event with its guard reads like a longer event: this one goes on where the guard stands, and both end alike. -/
def Overruns (event : String) (guard : Option String) (longer : String) (guard' : Option String) : Prop :=
  ∃ g tail, guard = some g ∧ longer = event ++ "[" ++ tail ∧ tail ++ guardText guard' = g ++ "]"

/-- How a guard stands after an event. -/
def guardChars : Option String → List Char
  | none => []
  | some g => '[' :: (g.toList ++ [']'])

theorem guardChars_injective (g h : Option String) (heq : guardChars g = guardChars h) : g = h := by
  cases g <;> cases h <;> simp_all [guardChars, String.toList_inj]

theorem toList_guardText (guard : Option String) : (guardText guard).toList = guardChars guard := by
  cases guard with
  | none => rfl
  | some g =>
    have htext : guardText (some g) = "[" ++ g ++ "]" := rfl
    simp [htext, guardChars]

/-- Where one event is the beginning of the other, the texts agree only if the events do, or the longer one overruns the
guard. -/
theorem overruns_of_extends (event longer : String) (guard guard' : Option String) (rest : List Char)
    (hlonger : longer.toList = event.toList ++ rest) (h : guardChars guard = rest ++ guardChars guard') :
    (event = longer ∧ guard = guard') ∨ Overruns event guard longer guard' := by
  cases rest with
  | nil =>
    rw [List.append_nil, String.toList_inj] at hlonger
    exact Or.inl ⟨hlonger.symm, guardChars_injective _ _ h⟩
  | cons c rest =>
    cases guard with
    | none => cases h
    | some g =>
      rw [guardChars, List.cons_append, List.cons.injEq] at h
      obtain ⟨rfl, hrest⟩ := h
      refine Or.inr ⟨g, String.ofList rest, rfl, ?_, ?_⟩
      · simp [← String.toList_inj, hlonger]
      · simp [← String.toList_inj, toList_guardText, hrest]

theorem Overruns.text_eq {event longer : String} {guard guard' : Option String} (h : Overruns event guard longer guard') :
    event ++ guardText guard = longer ++ guardText guard' := by
  obtain ⟨g, tail, rfl, rfl, htail⟩ := h
  calc event ++ guardText (some g) = event ++ "[" ++ (g ++ "]") := by
        rw [show guardText (some g) = "[" ++ g ++ "]" from rfl, String.append_assoc, String.append_assoc]
    _ = event ++ "[" ++ tail ++ guardText guard' := by rw [← htail, ← String.append_assoc]

/-- Only an id with a bracket overruns a guard. -/
theorem Overruns.bracket_mem {event longer : String} {guard guard' : Option String}
    (h : Overruns event guard longer guard') : '[' ∈ longer.toList := by
  obtain ⟨g, tail, _, rfl, _⟩ := h
  simp

theorem text_eq_iff (event event' : String) (guard guard' : Option String) :
    event ++ guardText guard = event' ++ guardText guard' ↔
      (event = event' ∧ guard = guard') ∨ Overruns event guard event' guard' ∨ Overruns event' guard' event guard := by
  constructor
  · intro h
    rw [← String.toList_inj, String.toList_append, String.toList_append, toList_guardText, toList_guardText,
      List.append_eq_append_iff] at h
    rcases h with ⟨rest, hlonger, hguard⟩ | ⟨rest, hlonger, hguard⟩
    · exact (overruns_of_extends event event' guard guard' rest hlonger hguard).imp_right Or.inl
    · rcases overruns_of_extends event' event guard' guard rest hlonger hguard with ⟨rfl, rfl⟩ | hover
      · exact Or.inl ⟨rfl, rfl⟩
      · exact Or.inr (Or.inr hover)
  · rintro (⟨rfl, rfl⟩ | hover | hover)
    · rfl
    · exact hover.text_eq
    · exact hover.text_eq.symm

/-- Without brackets in the events, the text tells event and guard apart. -/
theorem eventKey_inj (t u : Transition) (ht : '[' ∉ (t.eventId.getD "").toList)
    (hu : '[' ∉ (u.eventId.getD "").toList) (h : eventKey t = eventKey u) :
    t.eventId.getD "" = u.eventId.getD "" ∧ t.guard = u.guard := by
  rcases (text_eq_iff _ _ _ _).mp h with hsame | hover | hover
  · exact hsame
  · exact absurd hover.bracket_mem hu
  · exact absurd hover.bracket_mem ht

end StateMachine.Workspace
