import StateMachine.Proofs.Reporting
import StateMachine.Proofs.Validity

/-!
# No arc of a valid machine is skipped

A valid machine whose arcs and names are in order finds the endpoints of every arc on an event, derived arcs included. A
resolution then drops nothing and reports nothing, and an extraction only ever reports that there is nothing to extract.
-/

namespace StateMachine.Workspace

/-! ## Machines in which endpoints are found -/

/-- All references resolve, and arcs and names are in order. -/
structure Resolvable (ws : Workspace) (m : MachineRef) : Prop where
  consistent : (ws.machine m).Consistent ws.kindOf ws.entities.length
  named : ws.Named m
  sound : ws.Sound m
  belong : ws.ArcsBelong m

theorem Sound.of_agrees {ws ws' : Workspace} {m : MachineRef} (h : ws.Sound m) (hagrees : Agrees ws ws' m) :
    ws'.Sound m := by
  have hexits : ∀ r ∈ ws.members m .arc, ws'.exitOf r = ws.exitOf r := fun r hr => by
    rw [exitOf, hagrees.arcs r hr, exitOf]
  constructor
  · intro r hr role
    rw [hagrees.members_eq] at hr
    rw [hagrees.arcs r hr, hagrees.find_eq]
    exact h.refers r hr role
  · rw [hagrees.members_eq, List.map_congr_left hexits]
    exact h.exits

section
variable {ws : Workspace} {m : MachineRef} (h : ws.Resolvable m)
include h

theorem Resolvable.of_bare_eq {ws' : Workspace} (hbare : ws'.bare = ws.bare) : ws'.Resolvable m := by
  have hagrees := Agrees.of_bare_eq hbare h.consistent
  refine ⟨?_, hagrees.named h.named, h.sound.of_agrees hagrees, hagrees.arcsBelong h.belong⟩
  rw [← Machine.Consistent.unwarned_iff, unwarned_of_bare_eq hbare, kindOf_of_bare_eq hbare,
    length_entities_of_bare_eq hbare]
  exact Machine.Consistent.unwarned_iff.mpr h.consistent

/-! ## Resolving -/

theorem candidateArcs_endpoints (eventId : String) (raw : Bool) (a : FiringArc)
    (ha : a ∈ ws.candidateArcs m eventId raw) : (ws.endpoints? (ws.firing a)).isSome := by
  rw [candidateArcs_eq] at ha
  exact candidate_endpoints_of_sound h.consistent h.named h.sound h.belong eventId raw _
    (fun s hs => (mem_sorted _ _ s).mp hs) a ha

theorem resolve_of_resolvable (eventId : String) (raw : Bool) : ws.resolve m eventId raw =
    (sorted (byKey ws.originNumber) (ws.candidateArcs m eventId raw), []) := by
  have hgood := candidateArcs_endpoints h eventId raw
  have hnone : (ws.candidateArcs m eventId raw).filter (fun a => !(ws.endpoints? (ws.firing a)).isSome) = [] := by
    rw [List.filter_eq_nil_iff]
    intro a ha
    simp [hgood a ha]
  rw [resolve, List.partition_eq_filter_filter, List.filter_eq_self.mpr hgood]
  exact congrArg (Prod.mk _) (congrArg (List.map _) hnone)

/-- Resolving sorts the candidates and numbers the states; it does nothing else. -/
theorem arcsForEvent_of_resolvable (eventId : String) (raw : Bool) : ws.arcsForEvent m eventId raw =
    (sorted (byKey (ws.renumber m).originNumber) ((ws.renumber m).candidateArcs m eventId raw), ws.renumber m) := by
  rw [arcsForEvent]
  dsimp only
  rw [resolve_of_resolvable (h.of_bare_eq (bare_renumber ws m))]
  rfl

theorem machine_collectArcs_of_resolvable (events : List EntityRef) :
    (ws.collectArcs m events).2.machine m = ws.machine m := by
  induction events using List.reverseRecOn with
  | nil => rfl
  | append_singleton events event ih =>
    -- The events before have only given numbers to states, so that this one meets a machine in order, too.
    have hsofar := h.of_bare_eq (bare_collectArcs ws m events)
    rw [collectArcs_eq, List.foldl_append, ← collectArcs_eq, List.foldl_cons, List.foldl_nil, collectOne_eq]
    dsimp only
    rw [arcsForEvent_of_resolvable hsofar, machine_renumber, ih]

end

/-! ## Extracting -/

/-- However the new machine turns out, the source keeps its record. -/
theorem machine_of_ending {ws : Workspace} {m : MachineRef} {events states : List EntityRef} {arcs : List FiringArc}
    {result : Workspace × Except Fault MachineRef} (hm : m.index < ws.machines.length)
    (h : Ending ws m events states arcs result) : result.1.machine m = ws.machine m := by
  have hne : m ≠ ws.nextMachine := by
    rintro rfl
    exact Nat.lt_irrefl _ hm
  cases h with
  | refused => rfl
  | stuck => rw [machine_takingAll_ne _ _ _ m hne, machine_stocked_old ws m arcs m hm]
  | made => exact machine_cloned_old m hm

/-- What is said where there is nothing to extract. -/
def emptyTexts : List String := ["no events found", "no arcs found", "no states found"]

theorem ne_unresolvedWarning {d : Diagnostic} (h : d.what ∈ emptyTexts) (arc : Entity) : d ≠ unresolvedWarning arc := by
  rintro rfl
  have habout : AboutArcs [unresolvedWarning arc] := fun d hd => ⟨arc, List.mem_singleton.mp hd⟩
  have hfirst := head_of_aboutArcs habout _ (List.mem_singleton_self _)
  have hother : ∀ text ∈ emptyTexts, text.toList.head? ≠ some 'a' := by decide +kernel
  exact hother _ h hfirst

theorem warnings_extract_of_resolvable {ws : Workspace} {m : MachineRef} (h : ws.Resolvable m) (hc : ws.Consistent)
    (hm : m.index < ws.machines.length) (specifiers : List String) : ∃ reports,
    ((ws.extract m specifiers).1.machine m).warnings = (ws.machine m).warnings ++ reports ∧
      ∀ d ∈ reports, d.what ∈ emptyTexts := by
  cases hselected : ws.matchingEvents m specifiers with
  | error fault =>
    refine ⟨[], ?_, by simp⟩
    rw [extract, hselected, List.append_nil]
  | ok events =>
    obtain ⟨touched, _, _, rfl, p, hending⟩ := ending_extract ws m specifiers events hc hm hselected
    have hselecting := h.of_bare_eq (bare_reportIfEmpty ws m events.isEmpty (noEvents specifiers))
    obtain ⟨eventIds, arcIds, hwarnings⟩ := warnings_surveyed ws m specifiers events touched hm []
      (by rw [machine_collectArcs_of_resolvable hselecting, List.append_nil])
    rw [machine_of_ending p.inRange hending]
    refine ⟨_, hwarnings, fun d hd => ?_⟩
    simp only [List.nil_append, List.mem_append, List.mem_ite_nil_right, List.mem_singleton] at hd
    rcases hd with ⟨_, rfl⟩ | ⟨_, rfl⟩ | ⟨_, rfl⟩
    · simp [emptyTexts, noEvents, Diagnostic.warning]
    · simp [emptyTexts, noArcs, Diagnostic.warning]
    · simp [emptyTexts, noStates, Diagnostic.warning]

/-- In a valid machine, arcs and the arcs derived from them find their endpoints. No resolution drops one or warns, and
no extraction warns about one. -/
theorem nothing_skipped (ws : Workspace) (m : MachineRef) (hreach : ws.Reachable) (hm : m.index < ws.machines.length)
    (hvalid : (ws.check m).1.isValid = true) (hb : ws.ArcsBelong m) (hn : ws.Named m) :
    (∀ r ∈ ws.members m .arc, (ws.endpoints? (ws.entity r)).isSome ∧
      ∀ s ∈ ws.members m .state, (ws.endpoints? ((ws.entity r).derivedFor (ws.entity s))).isSome) ∧
    (∀ eventId raw, ((ws.arcsForEvent m eventId raw).2.machine m).warnings = (ws.machine m).warnings ∧
      (ws.arcsForEvent m eventId raw).2 = ws.renumber m ∧
      (ws.arcsForEvent m eventId raw).1.Perm ((ws.renumber m).candidateArcs m eventId raw)) ∧
    ∀ specifiers, ∃ reports,
      ((ws.extract m specifiers).1.machine m).warnings = (ws.machine m).warnings ++ reports ∧
        ∀ d ∈ reports, d.what ∈ emptyTexts ∧ ∀ arc, d ≠ unresolvedWarning arc := by
  have h : ws.Resolvable m := ⟨hreach.consistent.machine m hm, hn, sound_of_valid ws m hvalid, hb⟩
  refine ⟨fun r hr => ⟨endpoints_of_sound ws m h.sound hb r hr, fun s hs => ?_⟩, fun eventId raw => ?_,
    fun specifiers => ?_⟩
  · have hself := (findState_iff h.consistent hn _ s).mpr ⟨Or.inr hs, rfl⟩
    exact derived_endpoints_of_sound ws m h.sound hb r s hr hself
  · rw [arcsForEvent_of_resolvable h, machine_renumber]
    exact ⟨rfl, rfl, sorted_perm _ _⟩
  · obtain ⟨reports, hwarnings, hempty⟩ := warnings_extract_of_resolvable h hreach.consistent hm specifiers
    exact ⟨reports, hwarnings, fun d hd => ⟨hempty d hd, ne_unresolvedWarning (hempty d hd)⟩⟩

/-- A valid machine with a state `#all`, which is not the state `#ALL`, and an arc from it that leaves every state. -/
def lowerAll : Workspace := filled "m"
  [{ id := "#all", detail := .state [] [] none }, { id := "s", detail := .state [] [] none },
   { id := "go", detail := .event (some "ui") }, { id := "halt", detail := .event none },
   { id := "w", detail := .arc { fromId := some "#all", toId := some "#all", eventId := some "go" } },
   { id := "a", detail := .arc { fromId := some "s", toId := some "#ALL", eventId := some "halt" } }]

theorem nothing_skipped_lowerAll :
    (lowerAll.check ⟨0⟩).1.isValid = true ∧ lowerAll.ArcsBelong ⟨0⟩ ∧ lowerAll.Named ⟨0⟩ ∧
      (lowerAll.arcsForEvent ⟨0⟩ "GO" false).1.length = 2 ∧
      (lowerAll.arcsForEvent ⟨0⟩ "GO" false).2 = lowerAll.renumber ⟨0⟩ ∧
      ∃ reports, ((lowerAll.extract ⟨0⟩ ["db"]).1.machine ⟨0⟩).warnings = (lowerAll.machine ⟨0⟩).warnings ++ reports ∧
        ∀ d ∈ reports, d.what ∈ emptyTexts := by
  have hvalid : (lowerAll.check ⟨0⟩).1.isValid = true := by decide +kernel
  have hb : lowerAll.ArcsBelong ⟨0⟩ := by decide +kernel
  have hn : lowerAll.Named ⟨0⟩ := by decide +kernel
  obtain ⟨_, hresolved, hextracted⟩ := nothing_skipped lowerAll ⟨0⟩ (reachable_filled _ _) (by decide +kernel) hvalid hb hn
  obtain ⟨reports, hwarnings, hempty⟩ := hextracted ["db"]
  exact ⟨hvalid, hb, hn, by decide +kernel, (hresolved "GO" false).2.1, reports, hwarnings,
    fun d hd => (hempty d hd).1⟩

end StateMachine.Workspace
