import StateMachine.Proofs.Clashing

/-!
# What an extraction reports

An extraction warns about arcs that it skips, and once each if there are no events, no arcs or no states.
-/

namespace StateMachine.Workspace

/-! ## Warnings of the stages -/

section
variable (ws : Workspace) (m : MachineRef) (hm : m.index < ws.machines.length)
include hm

theorem warnings_report (d : Diagnostic) :
    ((ws.report m d).machine m).warnings = (ws.machine m).warnings ++ [d] :=
  congrArg Machine.warnings (machine_modifyMachine_self ws m _ hm)

theorem warnings_reportAll (ds : List Diagnostic) :
    ((ws.reportAll m ds).machine m).warnings = (ws.machine m).warnings ++ ds := by
  induction ds generalizing ws with
  | nil => exact (List.append_nil _).symm
  | cons d rest ih =>
    have hm' : m.index < (ws.report m d).machines.length := by
      rwa [length_machines_of_bare_eq (bare_report ws m d)]
    refine (ih (ws.report m d) hm').trans ?_
    rw [warnings_report ws m hm, List.append_assoc, List.singleton_append]

theorem warnings_reportIfEmpty (empty : Bool) (d : Diagnostic) :
    ((ws.reportIfEmpty m empty d).machine m).warnings = (ws.machine m).warnings ++ if empty then [d] else [] := by
  cases empty with
  | true => exact warnings_report ws m hm d
  | false => exact (List.append_nil _).symm

end

/-- All of these warn about arcs that are skipped. -/
def AboutArcs (reports : List Diagnostic) : Prop := ∀ d ∈ reports, ∃ arc, d = unresolvedWarning arc

section
variable (ws : Workspace) (m : MachineRef) (hm : m.index < ws.machines.length)
include hm

theorem warnings_arcsForEvent (eventId : String) (raw : Bool) : ∃ skipped, AboutArcs skipped ∧
    ((ws.arcsForEvent m eventId raw).2.machine m).warnings = (ws.machine m).warnings ++ skipped := by
  have hm' : m.index < (ws.renumber m).machines.length := by
    rwa [length_machines_of_bare_eq (bare_renumber ws m)]
  refine ⟨((ws.renumber m).resolve m eventId raw).2, ?_, ?_⟩
  · intro d hd
    obtain ⟨a, _, rfl⟩ := List.mem_map.mp hd
    exact ⟨_, rfl⟩
  · rw [← machine_renumber ws m m]
    exact warnings_reportAll _ m hm' _

theorem warnings_collectArcs (events : List EntityRef) : ∃ skipped, AboutArcs skipped ∧
    ((ws.collectArcs m events).2.machine m).warnings = (ws.machine m).warnings ++ skipped := by
  induction events using List.reverseRecOn with
  | nil => exact ⟨[], by simp [AboutArcs], (List.append_nil _).symm⟩
  | append_singleton events event ih =>
    obtain ⟨skipped, habout, hwarnings⟩ := ih
    have hm' : m.index < (ws.collectArcs m events).2.machines.length := by
      rwa [length_machines_of_bare_eq (bare_collectArcs ws m events)]
    obtain ⟨more, hmore, hlater⟩ := warnings_arcsForEvent (ws.collectArcs m events).2 m hm'
      ((ws.collectArcs m events).2.entity event).id false
    refine ⟨skipped ++ more, ?_, ?_⟩
    · exact fun d hd => (List.mem_append.mp hd).elim (habout d) (hmore d)
    · rw [collectArcs_eq, List.foldl_append, ← collectArcs_eq, List.foldl_cons, List.foldl_nil, collectOne_eq,
        ← List.append_assoc, ← hwarnings]
      exact hlater

end

/-! ## All warnings of an extraction -/

/-- The warnings say that there are no events, no arcs or no states, each exactly if it is so. -/
structure Reports (reports : List Diagnostic) (noEvents noArcs noStates : Prop) : Prop where
  events : "no events found" ∈ reports.map Diagnostic.what ↔ noEvents
  arcs : "no arcs found" ∈ reports.map Diagnostic.what ↔ noArcs
  states : "no states found" ∈ reports.map Diagnostic.what ↔ noStates

theorem head_of_aboutArcs {reports : List Diagnostic} (h : AboutArcs reports) (text : String)
    (htext : text ∈ reports.map Diagnostic.what) : text.toList.head? = some 'a' := by
  obtain ⟨d, hd, rfl⟩ := List.mem_map.mp htext
  obtain ⟨arc, rfl⟩ := h d hd
  have hwhat : (unresolvedWarning arc).what =
      "arc '" ++ arc.id ++ "'" ++ arc.whereText ++ " has an unresolved state, skipping it" := rfl
  simp only [hwhat, String.append_assoc, String.toList_append]
  rfl

theorem what_mem_ifEmpty (empty : Bool) (d : Diagnostic) (text : String) :
    text ∈ (if empty then [d] else []).map Diagnostic.what ↔ empty = true ∧ text = d.what := by
  cases empty <;> simp

theorem reports_of_parts {skipped : List Diagnostic} (h : AboutArcs skipped) (specifiers eventIds arcIds : List String)
    (withoutEvents withoutArcs withoutStates : Bool) :
    Reports ((if withoutEvents then [noEvents specifiers] else []) ++ (skipped ++
        ((if withoutArcs then [noArcs eventIds] else []) ++ if withoutStates then [noStates arcIds] else [])))
      (withoutEvents = true) (withoutArcs = true) (withoutStates = true) := by
  have hwhat : ∀ text : String, text.toList.head? ≠ some 'a' →
      (text ∈ ((if withoutEvents then [noEvents specifiers] else []) ++ (skipped ++
          ((if withoutArcs then [noArcs eventIds] else []) ++
            if withoutStates then [noStates arcIds] else []))).map Diagnostic.what ↔
        (withoutEvents = true ∧ text = "no events found") ∨ (withoutArcs = true ∧ text = "no arcs found") ∨
          (withoutStates = true ∧ text = "no states found")) := by
    intro text hne
    have hother : text ∉ skipped.map Diagnostic.what := fun hmem => hne (head_of_aboutArcs h text hmem)
    simp only [List.map_append, List.mem_append, what_mem_ifEmpty, hother, false_or]
    rfl
  constructor
  · exact (hwhat _ (by decide +kernel)).trans (by simp)
  · exact (hwhat _ (by decide +kernel)).trans (by simp)
  · exact (hwhat _ (by decide +kernel)).trans (by simp)

/-- The warnings come in the order of the stages. -/
theorem warnings_surveyed (ws : Workspace) (m : MachineRef) (specifiers : List String) (events touched : List EntityRef)
    (hm : m.index < ws.machines.length) (skipped : List Diagnostic)
    (hskipped : (((ws.reportIfEmpty m events.isEmpty (noEvents specifiers)).collectArcs m events).2.machine m).warnings =
      ((ws.reportIfEmpty m events.isEmpty (noEvents specifiers)).machine m).warnings ++ skipped) :
    ∃ eventIds arcIds, ((ws.surveyed m specifiers events touched).machine m).warnings = (ws.machine m).warnings ++
      ((if events.isEmpty then [noEvents specifiers] else []) ++ (skipped ++
        ((if (ws.collectArcs m events).1.isEmpty then [noArcs eventIds] else []) ++
          if touched.isEmpty then [noStates arcIds] else []))) := by
  have hlt : ∀ ws' : Workspace, ws'.bare = ws.bare → m.index < ws'.machines.length := fun ws' h => by
    rwa [length_machines_of_bare_eq h]
  have hselected := bare_reportIfEmpty ws m events.isEmpty (noEvents specifiers)
  have hcollected :=
    (bare_collectArcs (ws.reportIfEmpty m events.isEmpty (noEvents specifiers)) m events).trans hselected
  have hgathered := (ready_gathered ws m specifiers events).bare_eq
  rw [surveyed, warnings_reportIfEmpty _ m (hlt _ hgathered), gathered, warnings_reportIfEmpty _ m (hlt _ hcollected),
    hskipped, warnings_reportIfEmpty ws m hm, (collectArcs_reportIfEmpty ws m events (noEvents specifiers)).1]
  simp only [List.append_assoc]
  exact ⟨_, _, rfl⟩

theorem reports_surveyed (ws : Workspace) (m : MachineRef) (specifiers : List String) (events touched : List EntityRef)
    (hm : m.index < ws.machines.length) : ∃ reports,
    ((ws.surveyed m specifiers events touched).machine m).warnings = (ws.machine m).warnings ++ reports ∧
      Reports reports (events = []) ((ws.collectArcs m events).1 = []) (touched = []) := by
  have hm' : m.index < (ws.reportIfEmpty m events.isEmpty (noEvents specifiers)).machines.length := by
    rwa [length_machines_of_bare_eq (bare_reportIfEmpty ws m _ _)]
  obtain ⟨skipped, habout, hskipped⟩ := warnings_collectArcs _ m hm' events
  obtain ⟨eventIds, arcIds, hwarnings⟩ := warnings_surveyed ws m specifiers events touched hm skipped hskipped
  have hparts := reports_of_parts habout specifiers eventIds arcIds events.isEmpty
    (ws.collectArcs m events).1.isEmpty touched.isEmpty
  simp only [List.isEmpty_iff] at hparts hwarnings
  exact ⟨_, hwarnings, hparts⟩

/-- Making the new machine reports nothing. -/
theorem reports_extract {ws ws' : Workspace} {m clone : MachineRef} {specifiers : List String}
    {events : List EntityRef} (hc : ws.Consistent) (hm : m.index < ws.machines.length)
    (hselected : ws.matchingEvents m specifiers = .ok events) (hextract : ws.extract m specifiers = (ws', .ok clone)) :
    ∃ touched reports, ws.touchedStates (ws.collectArcs m events).1 = .ok touched ∧
      (ws'.machine m).warnings = (ws.machine m).warnings ++ reports ∧
      Reports reports (events = []) ((ws.collectArcs m events).1 = []) (touched = []) := by
  obtain ⟨touched, ready, htouched, rfl, p, hending⟩ := ending_extract ws m specifiers events hc hm hselected
  obtain ⟨reports, hwarnings, hreports⟩ := reports_surveyed ws m specifiers events touched hm
  rw [hextract] at hending
  refine ⟨touched, reports, htouched, ?_, hreports⟩
  rw [← hwarnings]
  cases hending with
  | made => exact congrArg Machine.warnings (machine_cloned_old m p.inRange)

end StateMachine.Workspace
