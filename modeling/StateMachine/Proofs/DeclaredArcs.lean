import StateMachine.Proofs.Operations
import StateMachine.Proofs.Validity

/-!
# Which declared arcs fire

In a valid machine all declared arcs have endpoints, so what counts fires. The check compares ids as they are, but
keys are in upper case: where ids differ in letter case only, an arc can take the place of another one.
-/

namespace StateMachine.Workspace

theorem isLast_or_later {β κ : Type} (key : β → κ) (xs : List β) (x : β) (h : x ∈ xs) :
    Assoc.IsLast key xs x ∨ ∃ before after y, xs = before ++ x :: after ∧ y ∈ after ∧ key y = key x := by
  obtain ⟨before, after, rfl⟩ := List.append_of_mem h
  by_cases hlater : ∃ y ∈ after, key y = key x
  · obtain ⟨y, hy, hkey⟩ := hlater
    exact Or.inr ⟨before, after, y, rfl, hy, hkey⟩
  · exact Or.inl ⟨before, after, rfl, fun y hy hkey => hlater ⟨y, hy, hkey⟩⟩

/-- A declared arc of a valid machine fires on an event unless a later arc on the event has its key. Such an arc has
another origin or event, which differs in letter case only. -/
theorem declared_mem_arcsForEvent_iff (ws : Workspace) (m : MachineRef) (eventId : String) (r : EntityRef)
    (hvalid : (ws.check m).1.isValid = true) (hb : ws.ArcsBelong m) (hr : r ∈ ws.members m .arc)
    (hon : (ws.entity r).isOn eventId = true) :
    (.declared r ∈ (ws.arcsForEvent m eventId true).1 ↔ ws.Counts (ws.arcsOn m eventId) r) ∧
    ((ws.entity r).leavesAll = false →
      (.declared r ∈ (ws.arcsForEvent m eventId false).1 ↔ ws.Counts (ws.arcsOn m eventId) r)) ∧
    (ws.Counts (ws.arcsOn m eventId) r ∨
      ∃ before after s, ws.arcsOn m eventId = before ++ r :: after ∧ s ∈ after ∧
        arcKey (ws.entity s) = arcKey (ws.entity r) ∧
        ((ws.entity s).transition.fromId ≠ (ws.entity r).transition.fromId ∨
          (ws.entity s).transition.eventId ≠ (ws.entity r).transition.eventId)) := by
  have hsound := sound_of_valid ws m hvalid
  have hends := endpoints_of_sound ws m hsound hb r hr
  have hfound : ∀ raw states, .declared r ∈ ws.found m eventId raw states ↔
      ws.Counts (ws.arcsOn m eventId) r ∧ (raw = true ∨ (ws.entity r).leavesAll = false) := by
    intro raw states
    rw [found, List.mem_filter, declared_mem_candidates]
    exact ⟨fun h => h.1, fun h => ⟨h, hends⟩⟩
  refine ⟨?_, ?_, ?_⟩
  · rw [mem_arcsForEvent_iff, hfound]
    exact ⟨fun h => h.1, fun h => ⟨h, Or.inl rfl⟩⟩
  · intro hleaves
    rw [mem_arcsForEvent_iff, hfound]
    exact ⟨fun h => h.1, fun h => ⟨h, Or.inr hleaves⟩⟩
  · have hmem : r ∈ ws.arcsOn m eventId := List.mem_filter.mpr ⟨hr, hon⟩
    rcases isLast_or_later (fun r => arcKey (ws.entity r)) _ r hmem with hlast | ⟨before, after, s, hsplit, hs, hkey⟩
    · exact Or.inl hlast
    · refine Or.inr ⟨before, after, s, hsplit, hs, hkey, ?_⟩
      by_contra hsame
      rw [not_or, not_not, not_not] at hsame
      have hlisted : s ∈ ws.arcsOn m eventId := by
        rw [hsplit]
        exact List.mem_append_right _ (List.mem_cons_of_mem _ hs)
      obtain rfl : s = r :=
        hsound.eq_of_same_exit s r (List.mem_filter.mp hlisted).1 hr hsame.1 hsame.2 (congrArg Prod.snd hkey)
      have hnodup : (ws.arcsOn m eventId).Nodup := hsound.exits.of_map.filter _
      rw [hsplit, List.nodup_append, List.nodup_cons] at hnodup
      exact hnodup.2.1.1 hs

/-- Two states whose ids differ in letter case, and an arc from each on one event. -/
def caseTwins : Workspace := filled "m"
  [{ id := "s", detail := .state [] [] none }, { id := "S", detail := .state [] [] none },
   { id := "go", detail := .event none },
   { id := "a", detail := .arc { fromId := some "s", toId := some "s", eventId := some "go" } },
   { id := "b", detail := .arc { fromId := some "S", toId := some "S", eventId := some "go" } }]

theorem declared_mem_arcsForEvent_twins :
    (caseTwins.check ⟨0⟩).1.isValid = true ∧ caseTwins.ArcsBelong ⟨0⟩ ∧
      (.declared ⟨5⟩ ∈ (caseTwins.arcsForEvent ⟨0⟩ "go" true).1 ↔ caseTwins.Counts (caseTwins.arcsOn ⟨0⟩ "go") ⟨5⟩) :=
  ⟨by decide +kernel, by decide +kernel,
    (declared_mem_arcsForEvent_iff caseTwins ⟨0⟩ "go" ⟨5⟩ (by decide +kernel) (by decide +kernel) (by decide +kernel)
      (by decide +kernel)).1⟩

/-- The machine is valid, its arcs belong to it, and yet its first arc does not fire on its own event. -/
theorem declared_not_mem_arcsForEvent_twins :
    ¬ ∀ (ws : Workspace) (m : MachineRef) (event r : EntityRef), ws.Reachable → (ws.check m).1.isValid = true →
      ws.ArcsBelong m → event ∈ ws.members m .event → r ∈ ws.members m .arc →
      (ws.entity r).isOn (ws.entity event).id = true →
      .declared r ∈ (ws.arcsForEvent m (ws.entity event).id true).1 ∧
        ((ws.entity r).leavesAll = false → .declared r ∈ (ws.arcsForEvent m (ws.entity event).id false).1) := by
  intro h
  have hfires := h caseTwins ⟨0⟩ ⟨3⟩ ⟨4⟩ (reachable_filled _ _) (by decide +kernel) (by decide +kernel)
    (by decide +kernel) (by decide +kernel) (by decide +kernel)
  exact absurd hfires.1 (by decide +kernel)

end StateMachine.Workspace
