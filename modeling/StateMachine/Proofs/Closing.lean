import StateMachine.Proofs.Reporting
import StateMachine.Proofs.Simulation

/-!
# A new machine is closed

Every arc of a new machine leaves and enters states of that machine, the same ones as in the old machine. The new
machine has no other states.
-/

namespace StateMachine.Workspace

/-! ## Endpoints -/

/-- What a new machine has for a state of the old one: the state itself, or an `#ALL` of its own. -/
def counterpart (ws later : Workspace) (m clone : MachineRef) (t : EntityRef) : EntityRef :=
  if t = (ws.machine m).allState then (later.machine clone).allState else t

namespace Extracted

section
variable {ws later : Workspace} {m clone : MachineRef} {events touched : List EntityRef}
  (h : Extracted ws later m clone events touched)
  (hx : (ws.machine m).Consistent ws.kindOf ws.entities.length) (hn : ws.Named m) (hb : ws.ArcsBelong m)
  (htouched : ws.touchedStates (ws.collectArcs m events).1 = .ok touched)
include h hx hn hb htouched

/-- An arc of the new machine finds there the counterparts of what its ids name in the old one. -/
theorem endpoints_of_arc (r : EntityRef) (hr : r ∈ later.members clone .arc) : ∃ f t,
    ws.find m .state (later.entity r).transition.fromId = .ok (some f) ∧ f ∈ ws.members m .state ∧
      later.findFrom (later.entity r) .state (later.entity r).transition.fromId = .ok (some f) ∧
      ws.find m .state (later.entity r).transition.toId = .ok (some t) ∧
      later.findFrom (later.entity r) .state (later.entity r).transition.toId =
        .ok (some (ws.counterpart later m clone t)) := by
  obtain ⟨a, ha, heq⟩ := h.exists_taken r hr
  obtain ⟨f, t, t', hends, hf, hsame, hends'⟩ := h.endpoints_taken hx hn hb htouched a ha
  obtain ⟨hfrom, hto⟩ :=
    (endpoints?_eq_some_iff ws m _ (machine_of_mem_collectArcs hb events a ha) f t).mp hends
  obtain ⟨hfrom', hto'⟩ := (endpoints?_eq_some_iff later clone (ws.taken clone a) rfl f t').mp hends'
  have hcounterpart : t' = ws.counterpart later m clone t := by
    obtain ⟨ht, hid⟩ := (findState_iff hx hn _ t).mp hto
    obtain ⟨ht', hid'⟩ := (findState_iff h.consistent h.named _ t').mp hto'
    rw [counterpart]
    split
    case isTrue hall =>
      -- No concrete state has the id of `#ALL`.
      refine ht'.resolve_right fun hmem => id_ne_all h.consistent h.named .state t' hmem ?_
      rw [← id_allState hx hn, ← hall]
      exact Option.some.inj (hid'.symm.trans hid)
    case isFalse hne => exact hsame (ht.resolve_left hne)
  rw [heq]
  exact ⟨f, t, hfrom, (h.states_sublist hn hb).subset hf, hfrom', hto, hcounterpart ▸ hto'⟩

/-- The states of the new machine are the concrete ones that its arcs leave or enter. -/
theorem mem_states_iff (s : EntityRef) : s ∈ later.members clone .state ↔
    s ≠ (later.machine clone).allState ∧ ∃ r ∈ later.members clone .arc,
      later.findFrom (later.entity r) .state (later.entity r).transition.fromId = .ok (some s) ∨
      later.findFrom (later.entity r) .state (later.entity r).transition.toId = .ok (some s) := by
  constructor
  · intro hs
    refine ⟨fun hall => allState_not_mem h.consistent h.named .state (hall ▸ hs), ?_⟩
    obtain ⟨_, a, ha, f, t, hends, hst⟩ := ((touched_collected htouched).2 s).mp (h.states.mem_iff.mp hs)
    obtain ⟨r, hr, heq⟩ := h.exists_copy a ha
    obtain ⟨g, u, u', hends₁, _, hsame, hends'⟩ := h.endpoints_taken hx hn hb htouched a ha
    obtain ⟨rfl, rfl⟩ := Prod.mk.inj (Option.some.inj (hends₁.symm.trans hends))
    obtain ⟨hfrom, hto⟩ := (endpoints?_eq_some_iff later clone (ws.taken clone a) rfl _ _).mp hends'
    refine ⟨r, hr, ?_⟩
    rw [heq]
    rcases hst with rfl | rfl
    · exact Or.inl hfrom
    · exact Or.inr (hsame ((h.states_sublist hn hb).subset hs) ▸ hto)
  · rintro ⟨hne, r, hr, hfound⟩
    have hmachine := h.belong r hr
    rw [findFrom, findFrom, hmachine] at hfound
    rcases hfound with hfound | hfound <;>
      exact ((findState_iff h.consistent h.named _ s).mp hfound).1.resolve_left hne

end

end Extracted

/-! ## Nothing is missing -/

/-- An arc that is collected leaves a concrete state, so there are arcs exactly if there are states. -/
theorem touched_eq_nil_iff {ws : Workspace} {m : MachineRef} {events touched : List EntityRef}
    (hx : (ws.machine m).Consistent ws.kindOf ws.entities.length) (hn : ws.Named m) (hb : ws.ArcsBelong m)
    (htouched : ws.touchedStates (ws.collectArcs m events).1 = .ok touched) :
    touched = [] ↔ (ws.collectArcs m events).1 = [] := by
  constructor
  · rintro rfl
    refine List.eq_nil_iff_forall_not_mem.mpr fun a ha => ?_
    obtain ⟨event, _, hfires⟩ := mem_collectArcs ws m events a ha
    obtain ⟨f, t, hends, hf, _⟩ := endpoints_of_mem_arcsForEvent hx hn hb _ a hfires
    exact List.not_mem_nil (mem_touched_of_state hx hn ha hends (Or.inl rfl) htouched hf)
  · intro hnone
    refine List.eq_nil_iff_forall_not_mem.mpr fun s hs => ?_
    obtain ⟨_, a, ha, _⟩ := ((touched_collected htouched).2 s).mp hs
    rw [hnone] at ha
    exact List.not_mem_nil ha

/-- The arcs of a new machine find in it the states that they find in the old one, and its own `#ALL` for that of the
old one. Its states are the concrete ones among these, once each and in their old order. Its events are the selected
ones, and it has all classes and actions. A lack of states is reported exactly with a lack of arcs, and always with a
lack of events. -/
theorem extract_closed (ws ws' : Workspace) (m clone : MachineRef) (specifiers : List String) (hreach : ws.Reachable)
    (hm : m.index < ws.machines.length) (hb : ws.ArcsBelong m) (hn : ws.Named m)
    (hextract : ws.extract m specifiers = (ws', .ok clone)) :
    let endpoint (r : EntityRef) (id : Option String) := ws'.findFrom (ws'.entity r) .state id
    (∀ r ∈ ws'.members clone .arc, ∃ f t,
      ws.find m .state (ws'.entity r).transition.fromId = .ok (some f) ∧ f ∈ ws.members m .state ∧
      endpoint r (ws'.entity r).transition.fromId = .ok (some f) ∧
      ws.find m .state (ws'.entity r).transition.toId = .ok (some t) ∧
      endpoint r (ws'.entity r).transition.toId = .ok (some (ws.counterpart ws' m clone t))) ∧
    (∀ s, s ∈ (ws'.states clone).1 ↔ s ≠ (ws'.machine clone).allState ∧ ∃ r ∈ ws'.members clone .arc,
      endpoint r (ws'.entity r).transition.fromId = .ok (some s) ∨
      endpoint r (ws'.entity r).transition.toId = .ok (some s)) ∧
    (ws'.states clone).1.Nodup ∧ (ws'.states clone).1.Sublist (ws.states m).1 ∧
    ws.matchingEvents m specifiers = .ok (ws'.members clone .event) ∧
    ws'.members clone .bundle = ws.members m .bundle ∧ ws'.members clone .action = ws.members m .action ∧
    ∃ reports, (ws'.machine m).warnings = (ws.machine m).warnings ++ reports ∧
      ("no states found" ∈ reports.map Diagnostic.what ↔ "no arcs found" ∈ reports.map Diagnostic.what) ∧
      ("no events found" ∈ reports.map Diagnostic.what → "no states found" ∈ reports.map Diagnostic.what) := by
  have hc := hreach.consistent
  have hx := hc.machine m hm
  obtain ⟨events, hselected⟩ := selected_of_extract hextract
  obtain ⟨touched, htouched, h⟩ := extracted_of_extract hc hm hselected hextract rfl
  obtain ⟨touched', reports, htouched', hwarnings, hreports⟩ := reports_extract hc hm hselected hextract
  obtain rfl : touched' = touched := Except.ok.inj (htouched'.symm.trans htouched)
  have hnone := touched_eq_nil_iff hx hn hb htouched
  rw [states_eq_members h.consistent h.named, states_eq_members hx hn, h.events]
  refine ⟨h.endpoints_of_arc hx hn hb htouched, h.mem_states_iff hx hn hb htouched,
    nodup_members h.consistent h.named .state, h.states_sublist hn hb, hselected, h.bundles, h.actions,
    reports, hwarnings, ?_, ?_⟩
  · rw [hreports.states, hreports.arcs, hnone]
  · rw [hreports.states, hreports.events, hnone]
    rintro rfl
    rfl

/-- A machine with an arc that is skipped, so that its state is not needed, and an arc that enters `#ALL`. -/
def dangling : Workspace := filled "m"
  [{ id := "s", detail := .state [] [] none }, { id := "t", detail := .state [] [] none },
   { id := "go", detail := .event none },
   { id := "a", detail := .arc { fromId := some "s", toId := some "#ALL", eventId := some "go" } },
   { id := "b", detail := .arc { fromId := some "t", toId := some "gone", eventId := some "go" } }]

theorem extract_closed_dangling :
    let ws' := (dangling.extract ⟨0⟩ []).1
    dangling.extract ⟨0⟩ [] = (ws', .ok ⟨1⟩) ∧ dangling.ArcsBelong ⟨0⟩ ∧ dangling.Named ⟨0⟩ ∧
      (ws'.states ⟨1⟩).1.Nodup ∧ (ws'.states ⟨1⟩).1.Sublist (dangling.states ⟨0⟩).1 := by
  have hextract : dangling.extract ⟨0⟩ [] = ((dangling.extract ⟨0⟩ []).1, .ok ⟨1⟩) :=
    extract_of_toOption dangling ⟨0⟩ ⟨1⟩ [] (by decide +kernel)
  obtain ⟨_, _, hnodup, hsublist, _⟩ := extract_closed dangling _ ⟨0⟩ ⟨1⟩ [] (reachable_filled _ _) (by decide +kernel)
    (by decide +kernel) (by decide +kernel) hextract
  exact ⟨hextract, by decide +kernel, by decide +kernel, hnodup, hsublist⟩

end StateMachine.Workspace
