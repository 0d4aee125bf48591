import StateMachine.Proofs.Collecting
import StateMachine.Proofs.Operations

/-!
# What holds of all arcs that fire

Whether a machine is valid or not: what a resolution answers is on the event, goes from concrete states to states of the
machine, leaves no state twice on one guard, and comes from the machine's own arcs.
-/

namespace StateMachine.Workspace

/-- The state that an arc leaves, and its guard. -/
def departure (ws : Workspace) (a : FiringArc) : Option EntityRef × Option String :=
  ((ws.endpoints? (ws.firing a)).map (·.1), (ws.firing a).transition.guard)

/-! ## Where arcs come from -/

theorem mem_arcs_of_declared (ws : Workspace) (m : MachineRef) (eventId : String) (raw : Bool) (r : EntityRef)
    (h : .declared r ∈ (ws.arcsForEvent m eventId raw).1) : r ∈ ws.members m .arc := by
  obtain ⟨⟨k, hmem⟩, _⟩ := candidate_of_mem_arcsForEvent ws m eventId raw _ h
  rcases candidates_cases ws m eventId raw _ k _ hmem with ⟨s, hs, _, _, heq⟩ | ⟨_, w, _, s, _, _, heq, _⟩
  · rw [FiringArc.declared.inj heq]
    exact (List.mem_filter.mp hs.mem).1
  · cases heq

/-- An arc is derived from a declared one for a state that has no arc of its own on the event and guard. -/
theorem derived_of_mem_arcsForEvent (ws : Workspace) (m : MachineRef) (eventId : String) (raw : Bool) (e : Entity)
    (h : .derived e ∈ (ws.arcsForEvent m eventId raw).1) :
    raw = false ∧ ∃ w ∈ ws.wildcardsOn m eventId, ∃ s ∈ (ws.states m).1,
      e = (ws.entity w).derivedFor (ws.entity s) ∧
        ∀ r ∈ ws.arcsOn m eventId, (ws.entity r).leavesAll = false → arcKey (ws.entity r) ≠ ws.derivedKey (w, s) := by
  obtain ⟨⟨k, hmem⟩, _⟩ := candidate_of_mem_arcsForEvent ws m eventId raw _ h
  rcases candidates_cases ws m eventId raw _ k _ hmem with ⟨r, _, _, _, heq⟩ | ⟨hraw, w, hw, s, hs, rfl, heq, hopen⟩
  · cases heq
  · refine ⟨hraw, w, hw, s, hs, FiringArc.derived.inj heq, fun r hr hleaves hkey => hopen ?_⟩
    exact (mem_keys_concreteArcs ws _ _).mpr ⟨r, hr, hleaves, hkey⟩

section
variable {ws : Workspace} {m : MachineRef} (hx : (ws.machine m).Consistent ws.kindOf ws.entities.length)
  (hn : ws.Named m)
include hx hn

theorem fromId_of_mem_arcsForEvent (eventId : String) (a : FiringArc)
    (h : a ∈ (ws.arcsForEvent m eventId false).1) : (ws.firing a).transition.fromId ≠ some allStateId := by
  obtain ⟨⟨k, hmem⟩, _⟩ := candidate_of_mem_arcsForEvent ws m eventId false a h
  rw [states_eq_members hx hn] at hmem
  rcases candidates_cases ws m eventId false _ k a hmem with ⟨r, _, hleaves, _, rfl⟩ | ⟨_, w, _, s, hs, _, rfl, _⟩
  · exact fromId_ne_all _ (hleaves.resolve_left (by simp))
  · exact fun hall => id_ne_all hx hn .state s hs (Option.some.inj hall)

variable (hb : ws.ArcsBelong m)
include hb

/-- An arc that fires leaves a concrete state and enters a state, under their ids. -/
theorem endpoints_of_mem_arcsForEvent (eventId : String) (a : FiringArc)
    (h : a ∈ (ws.arcsForEvent m eventId false).1) :
    ∃ f t, ws.endpoints? (ws.firing a) = some (f, t) ∧ f ∈ ws.members m .state ∧
      (t = (ws.machine m).allState ∨ t ∈ ws.members m .state) ∧
      (ws.firing a).transition.fromId = some (ws.entity f).id ∧
      (ws.firing a).transition.toId = some (ws.entity t).id := by
  obtain ⟨f, t, hends, hfrom, hto⟩ :=
    endpoints_of_mem_found hb eventId false _ a ((mem_arcsForEvent_iff ws m eventId false a).mp h)
  obtain ⟨hf, hid⟩ := (findState_iff hx hn _ f).mp hfrom
  obtain ⟨ht, htid⟩ := (findState_iff hx hn _ t).mp hto
  refine ⟨f, t, hends, hf.resolve_left ?_, ht, hid, htid⟩
  rintro rfl
  rw [id_allState hx hn] at hid
  exact fromId_of_mem_arcsForEvent hx hn eventId a h hid

/-- Arcs that leave one state on one guard have one key, and no two arcs that fire do. -/
theorem nodup_departures_arcsForEvent (eventId : String) :
    ((ws.arcsForEvent m eventId false).1.map ws.departure).Nodup := by
  have hkeys := nodup_keys_arcsForEvent ws m eventId false
  refine hkeys.of_map.map_on ?_
  intro a ha b hb' hsame
  obtain ⟨f, t, hfends, _, _, hfid, _⟩ := endpoints_of_mem_arcsForEvent hx hn hb eventId a ha
  obtain ⟨g, u, hgends, _, _, hgid, _⟩ := endpoints_of_mem_arcsForEvent hx hn hb eventId b hb'
  obtain ⟨hstate, hguard⟩ := Prod.mk.inj hsame
  rw [hfends, hgends] at hstate
  obtain rfl : f = g := Option.some.inj hstate
  apply List.inj_on_of_nodup_map hkeys ha hb'
  rw [arcKey, arcKey, hfid, hgid, hguard]

end

/-! ## After resolving -/

theorem originNumber_arcsForEvent (ws : Workspace) (m : MachineRef) (eventId : String) (raw : Bool) :
    (ws.arcsForEvent m eventId raw).2.originNumber = (ws.renumber m).originNumber := by
  apply originNumber_of_bare_eq
  · rw [bare_arcsForEvent, bare_renumber]
  · funext r
    rw [numberOf, numberOf, entity_eq, entity_eq, entities_arcsForEvent]

theorem ascending_arcsForEvent (ws : Workspace) (m : MachineRef) (eventId : String) (raw : Bool) :
    (ws.arcsForEvent m eventId raw).1.Pairwise fun a b =>
      (ws.arcsForEvent m eventId raw).2.originNumber a ≤ (ws.arcsForEvent m eventId raw).2.originNumber b := by
  rw [originNumber_arcsForEvent, arcsForEvent_eq_sorted]
  exact sorted_pairwise _ _

theorem departure_of_bare_eq {ws ws' : Workspace} (h : ws'.bare = ws.bare) (a : FiringArc)
    (ha : ws'.firing a = ws.firing a) : ws'.departure a = ws.departure a := by
  rw [departure, ha, ← endpoints?_bare, h, endpoints?_bare, departure]

/-- What a resolution answers, and what it leaves behind, in any machine whose arcs and names are in order. -/
theorem arcsForEvent_invariants (ws : Workspace) (m : MachineRef) (eventId : String) (hreach : ws.Reachable)
    (hm : m.index < ws.machines.length) (hb : ws.ArcsBelong m) (hn : ws.Named m) :
    let fired := (ws.arcsForEvent m eventId false).1
    let after := (ws.arcsForEvent m eventId false).2
    (∀ a ∈ fired, (after.firing a).isOn eventId = true ∧
      ∃ f t, after.endpoints? (after.firing a) = some (f, t) ∧
        f ∈ after.members m .state ∧ f ≠ (after.machine m).allState ∧
        (t = (after.machine m).allState ∨ t ∈ after.members m .state)) ∧
    fired.Pairwise (after.originNumber · ≤ after.originNumber ·) ∧
    (fired.map after.departure).Nodup ∧
    (∀ r, .declared r ∈ fired → r ∈ ws.members m .arc) ∧
    (∀ e, .derived e ∈ fired → ∃ w ∈ ws.wildcardsOn m eventId, ∃ s ∈ ws.members m .state,
      e = (ws.entity w).derivedFor (ws.entity s) ∧
        ∀ r ∈ ws.arcsOn m eventId, (ws.entity r).leavesAll = false →
          (ws.entity r).transition.guard = (ws.entity w).transition.guard →
            Text.upper ((ws.entity r).transition.fromId.getD "") ≠ Text.upper (ws.entity s).id) ∧
    (∀ a ∈ (ws.arcsForEvent m eventId true).1, ∃ r ∈ ws.members m .arc, a = .declared r) ∧
    ∀ raw, Renumbered ws (ws.arcsForEvent m eventId raw).2 m ∧
      ∀ r, ws.kindOf r = .arc → (ws.arcsForEvent m eventId raw).2.entity r = ws.entity r := by
  have hx := hreach.consistent.machine m hm
  intro fired after
  have hagrees : Agrees ws after m := Agrees.of_bare_eq (bare_arcsForEvent ws m eventId false) hx
  have hfiring : ∀ a ∈ fired, after.firing a = ws.firing a := hagrees.firing_of_mem_arcsForEvent eventId false
  refine ⟨?_, ascending_arcsForEvent ws m eventId false, ?_, mem_arcs_of_declared ws m eventId false, ?_, ?_,
    fun raw => ⟨renumbered_arcsForEvent ws m eventId raw, (renumbered_arcsForEvent ws m eventId raw).arc_eq⟩⟩
  · intro a ha
    obtain ⟨f, t, hends, hf, ht, _⟩ := endpoints_of_mem_arcsForEvent hx hn hb eventId a ha
    rw [hfiring a ha, hagrees.members_eq, hagrees.allState_eq, ← endpoints?_bare, bare_arcsForEvent, endpoints?_bare]
    refine ⟨isOn_of_mem_arcsForEvent ws m eventId false a ha, f, t, hends, hf, ?_, ht⟩
    rintro rfl
    exact allState_not_mem hx hn .state hf
  · have hsame : ∀ a ∈ fired, after.departure a = ws.departure a := fun a ha =>
      departure_of_bare_eq (bare_arcsForEvent ws m eventId false) a (hfiring a ha)
    rw [List.map_congr_left hsame]
    exact nodup_departures_arcsForEvent hx hn hb eventId
  · intro e he
    obtain ⟨_, w, hw, s, hs, heq, hopen⟩ := derived_of_mem_arcsForEvent ws m eventId false e he
    rw [states_eq_members hx hn] at hs
    exact ⟨w, hw, s, hs, heq, fun r hr hleaves hguard hfrom => hopen r hr hleaves (Prod.ext hfrom hguard)⟩
  · intro a ha
    cases a with
    | declared r => exact ⟨r, mem_arcs_of_declared ws m eventId true r ha, rfl⟩
    | derived e => cases (derived_of_mem_arcsForEvent ws m eventId true e ha).1

/-- A machine in which most arcs are wrong: two leave one state, one leaves none, one enters no state and one leaves an
event. -/
def broken : Workspace := filled "m"
  [{ id := "s", detail := .state [] [] none }, { id := "t", detail := .state [] [] none },
   { id := "go", detail := .event none },
   { id := "w", detail := .arc { fromId := some "#all", toId := some "#ALL", eventId := some "GO" } },
   { id := "a", detail := .arc { fromId := some "t", toId := some "t", eventId := some "go" } },
   { id := "b", detail := .arc { fromId := some "t", toId := some "s", eventId := some "go" } },
   { id := "c", detail := .arc { fromId := none, toId := some "s", eventId := some "go" } },
   { id := "d", detail := .arc { fromId := some "s", toId := some "u", eventId := some "go", guard := some "g" } },
   { id := "e", detail := .arc { fromId := some "go", toId := some "s", eventId := some "go" } }]

theorem arcsForEvent_invariants_broken :
    (broken.check ⟨0⟩).1.isValid = false ∧ broken.ArcsBelong ⟨0⟩ ∧ broken.Named ⟨0⟩ ∧
      (broken.arcsForEvent ⟨0⟩ "go" false).1.length = 2 ∧
      ((broken.arcsForEvent ⟨0⟩ "go" false).1.map (broken.arcsForEvent ⟨0⟩ "go" false).2.departure).Nodup := by
  refine ⟨by decide +kernel, by decide +kernel, by decide +kernel, by decide +kernel, ?_⟩
  exact (arcsForEvent_invariants broken ⟨0⟩ "go" (reachable_filled _ _) (by decide +kernel) (by decide +kernel)
    (by decide +kernel)).2.2.1

end StateMachine.Workspace
