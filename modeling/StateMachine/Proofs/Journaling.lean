import StateMachine.Proofs.History
import StateMachine.Proofs.Reporting

/-!
# What is written to the journal

A report writes its warning under the stamp of the machine, an addition writes under the stamp in force, and nothing
else is written before the new machine of an extraction is made. A journal that keeps everything is assumed.
-/

namespace StateMachine

/-! ## Entries -/

/-- The entry of a warning about a machine of this id. -/
def reportEntry (id : Option String) (d : Diagnostic) : JournalEntry := ⟨.warning, stampOf id, d.what⟩

/-- The entry of an entity that was added. -/
def additionEntry (stamp : String) (e : Entity) : JournalEntry := ⟨.debug, stamp, s!"Added {e.label}"⟩

/-- The entry of an extraction from a machine of this id. -/
def extractionEntry (id : Option String) (events arcs states : Nat) : JournalEntry :=
  let counts := s!"{events} event(s), {arcs} arc(s), {states} state(s)"
  ⟨.info, stampOf id, s!"Extracted output machine: {counts}"⟩

namespace Journal

/-- The journal with more entries. -/
def noting (j : Journal) (written : List JournalEntry) : Journal := { j with entries := j.entries ++ written }

@[simp]
theorem noting_nil (j : Journal) : j.noting [] = j := by simp [noting]

@[simp]
theorem noting_noting (j : Journal) (written later : List JournalEntry) :
    (j.noting written).noting later = j.noting (written ++ later) := by simp [noting]

@[simp]
theorem threshold_noting (j : Journal) (written : List JournalEntry) : (j.noting written).threshold = j.threshold := rfl

@[simp]
theorem stamp_noting (j : Journal) (written : List JournalEntry) : (j.noting written).stamp = j.stamp := rfl

/-- A journal that keeps entries of all levels. -/
def KeepsAll (j : Journal) : Prop := j.threshold ≤ Level.debug.rank

instance (j : Journal) : Decidable j.KeepsAll := inferInstanceAs (Decidable (_ ≤ _))

theorem write_eq_noting {j : Journal} (hj : j.KeepsAll) (level : Level) (message : String) :
    j.write level message = j.noting [⟨level, j.stamp, message⟩] := by
  have hlevel : Level.debug.rank ≤ level.rank := by cases level <;> decide
  rw [write, if_pos (Int.le_trans hj hlevel), noting]

/-- The stamp in force is back after a scope. -/
theorem within_write_eq_noting {j : Journal} (hj : j.KeepsAll) (id : Option String) (level : Level) (message : String) :
    j.within id (fun j => j.write level message) = j.noting [⟨level, stampOf id, message⟩] := by
  have hentered : (j.enter id).KeepsAll := hj
  rw [within, write_eq_noting hentered]
  rfl

/-- The entries of one level. -/
def entriesAt (j : Journal) (level : Level) : List JournalEntry := j.entries.filter (·.level = level)

end Journal

namespace Workspace

/-! ## Reports -/

/-- Nothing has changed but numbers, and these warnings about a machine were reported and written down. -/
structure Remarked (ws ws' : Workspace) (m : MachineRef) (ds : List Diagnostic) : Prop where
  bare_eq : ws'.bare = ws.bare
  warnings_eq : ∀ n, (ws'.machine n).warnings = (ws.machine n).warnings ++ if n = m then ds else []
  journal_eq : ws'.journal = ws.journal.noting (ds.map (reportEntry (ws.machine m).head.id))

theorem Remarked.refl (ws : Workspace) (m : MachineRef) : Remarked ws ws m [] := ⟨rfl, by simp, by simp⟩

theorem Remarked.trans {ws ws' ws'' : Workspace} {m : MachineRef} {ds later : List Diagnostic}
    (h : Remarked ws ws' m ds) (h' : Remarked ws' ws'' m later) : Remarked ws ws'' m (ds ++ later) where
  bare_eq := h'.bare_eq.trans h.bare_eq
  warnings_eq n := by
    rw [h'.warnings_eq, h.warnings_eq, List.append_assoc]
    by_cases hn : n = m <;> simp [hn]
  journal_eq := by
    rw [h'.journal_eq, h.journal_eq, Journal.noting_noting, List.map_append, head_of_bare_eq h.bare_eq]

theorem Remarked.keepsAll {ws ws' : Workspace} {m : MachineRef} {ds : List Diagnostic} (h : Remarked ws ws' m ds)
    (hj : ws.journal.KeepsAll) : ws'.journal.KeepsAll := by
  rw [h.journal_eq]
  exact hj

theorem Remarked.inRange {ws ws' : Workspace} {m : MachineRef} {ds : List Diagnostic} (h : Remarked ws ws' m ds)
    (hm : m.index < ws.machines.length) : m.index < ws'.machines.length := by
  rwa [length_machines_of_bare_eq h.bare_eq]

theorem journal_numberFrom (ws : Workspace) (k : Nat) (states : List EntityRef) :
    (ws.numberFrom k states).journal = ws.journal := by
  induction states generalizing ws k with
  | nil => rfl
  | cons r rest ih => exact ih _ (k + 1)

theorem remarked_renumber (ws : Workspace) (m : MachineRef) : Remarked ws (ws.renumber m) m [] where
  bare_eq := bare_renumber ws m
  warnings_eq n := by simp [machine_renumber]
  journal_eq := by
    rw [renumber_eq, List.map_nil, Journal.noting_nil]
    exact journal_numberFrom ws 1 _

section
variable {ws : Workspace} {m : MachineRef} (hm : m.index < ws.machines.length) (hj : ws.journal.KeepsAll)
include hm hj

theorem remarked_report (d : Diagnostic) : Remarked ws (ws.report m d) m [d] where
  bare_eq := bare_report ws m d
  warnings_eq n := by
    by_cases hn : n = m
    · rw [hn, warnings_report ws m hm, if_pos rfl]
    · rw [if_neg hn, List.append_nil]
      exact congrArg Machine.warnings (machine_modifyMachine_ne ws m n _ hn)
  journal_eq := by
    refine (Journal.within_write_eq_noting hj _ _ _).trans ?_
    rw [machine_modifyMachine_self ws m _ hm]
    rfl

theorem remarked_reportAll (ds : List Diagnostic) : Remarked ws (ws.reportAll m ds) m ds := by
  induction ds generalizing ws with
  | nil => exact .refl ws m
  | cons d rest ih =>
    have hd := remarked_report hm hj d
    exact hd.trans (ih (hd.inRange hm) (hd.keepsAll hj))

theorem remarked_arcsForEvent (eventId : String) (raw : Bool) :
    ∃ ds, Remarked ws (ws.arcsForEvent m eventId raw).2 m ds := by
  have hnumbered := remarked_renumber ws m
  exact ⟨_, hnumbered.trans (remarked_reportAll (hnumbered.inRange hm) (hnumbered.keepsAll hj) _)⟩

theorem remarked_assertValid : ∃ ds, Remarked ws (ws.assertValid m).1 m ds := by
  have hnumbered := remarked_renumber ws m
  refine ⟨(ws.check m).1.warnings, ?_⟩
  rw [fst_assertValid]
  exact hnumbered.trans (remarked_reportAll (hnumbered.inRange hm) (hnumbered.keepsAll hj) _)

theorem remarked_functions (events : List EntityRef) :
    ∃ ds, Remarked ws (SwitchTable.functions ws m events).1 m ds := by
  induction events generalizing ws with
  | nil => exact ⟨[], .refl ws m⟩
  | cons event rest ih =>
    obtain ⟨ds, hresolved⟩ := remarked_arcsForEvent hm hj (ws.entity event).id false
    obtain ⟨later, hrest⟩ := ih (hresolved.inRange hm) (hresolved.keepsAll hj)
    have hboth := hresolved.trans hrest
    rw [SwitchTable.functions]
    dsimp only
    split
    case h_1 => exact ⟨ds, hresolved⟩
    case h_2 =>
      split
      case h_1 heq => exact ⟨_, by rwa [heq] at hboth⟩
      case h_2 heq => exact ⟨_, by rwa [heq] at hboth⟩

theorem remarked_render : ∃ ds, Remarked ws (SwitchTable.render ws m).1 m ds := by
  have hnumbered : Remarked ws (ws.states m).2 m [] := remarked_renumber ws m
  obtain ⟨ds, hwritten⟩ := remarked_functions (hnumbered.inRange hm) (hnumbered.keepsAll hj)
    ((ws.states m).2.members m .event)
  have hboth := hnumbered.trans hwritten
  refine ⟨ds, ?_⟩
  unfold SwitchTable.render
  dsimp only
  split
  case h_1 heq => rwa [heq] at hboth
  case h_2 heq => rwa [heq] at hboth

/-! ## The stages of an extraction -/

theorem remarked_reportIfEmpty (empty : Bool) (d : Diagnostic) :
    ∃ ds, Remarked ws (ws.reportIfEmpty m empty d) m ds := by
  cases empty with
  | true => exact ⟨_, remarked_report hm hj d⟩
  | false => exact ⟨_, .refl ws m⟩

theorem remarked_collectArcs (events : List EntityRef) : ∃ ds, Remarked ws (ws.collectArcs m events).2 m ds := by
  induction events using List.reverseRecOn with
  | nil => exact ⟨[], .refl ws m⟩
  | append_singleton events event ih =>
    obtain ⟨ds, hcollected⟩ := ih
    obtain ⟨later, hlater⟩ := remarked_arcsForEvent (hcollected.inRange hm) (hcollected.keepsAll hj)
      ((ws.collectArcs m events).2.entity event).id false
    rw [collectArcs_eq, List.foldl_append, ← collectArcs_eq, List.foldl_cons, List.foldl_nil, collectOne_eq]
    exact ⟨_, hcollected.trans hlater⟩

theorem remarked_gathered (specifiers : List String) (events : List EntityRef) :
    ∃ ds, Remarked ws (ws.gathered m specifiers events) m ds := by
  obtain ⟨_, hselected⟩ := remarked_reportIfEmpty hm hj events.isEmpty (noEvents specifiers)
  obtain ⟨_, hcollected⟩ := remarked_collectArcs (hselected.inRange hm) (hselected.keepsAll hj) events
  have hboth := hselected.trans hcollected
  obtain ⟨_, hreported⟩ := remarked_reportIfEmpty (hboth.inRange hm) (hboth.keepsAll hj) _ _
  exact ⟨_, hboth.trans hreported⟩

theorem remarked_surveyed (specifiers : List String) (events touched : List EntityRef) :
    ∃ ds, Remarked ws (ws.surveyed m specifiers events touched) m ds := by
  obtain ⟨_, hgathered⟩ := remarked_gathered hm hj specifiers events
  obtain ⟨_, hreported⟩ := remarked_reportIfEmpty (hgathered.inRange hm) (hgathered.keepsAll hj) _ _
  exact ⟨_, hgathered.trans hreported⟩

end

/-! ## Additions -/

theorem journal_taking {ws : Workspace} (m : MachineRef) (r : EntityRef) (hj : ws.journal.KeepsAll) :
    (ws.taking m r).journal = ws.journal.noting [additionEntry ws.journal.stamp (ws.entity r)] :=
  Journal.write_eq_noting hj _ _

/-- Each entity that is taken over is written down, in order. -/
theorem journal_takingAll {ws : Workspace} (m : MachineRef) (refs : List EntityRef) (hj : ws.journal.KeepsAll) :
    (ws.takingAll m refs).journal =
      ws.journal.noting (refs.map fun r => additionEntry ws.journal.stamp (ws.entity r)) := by
  induction refs generalizing ws with
  | nil => exact (Journal.noting_nil _).symm
  | cons r rest ih =>
    have htaken := journal_taking m r hj
    have hlabels : ∀ s, additionEntry ws.journal.stamp ((ws.taking m r).entity s) =
        additionEntry ws.journal.stamp (ws.entity s) :=
      entity_taking_congr ws m r (additionEntry ws.journal.stamp) fun _ => rfl
    have hrest := @ih (ws.taking m r) (by rw [htaken]; exact hj)
    simp only [htaken, Journal.stamp_noting, hlabels, Journal.noting_noting] at hrest
    exact hrest

theorem warnings_takingAll (ws : Workspace) (m n : MachineRef) (refs : List EntityRef) :
    ((ws.takingAll m refs).machine n).warnings = (ws.machine n).warnings := by
  by_cases hn : n = m
  · subst hn
    by_cases hlt : n.index < ws.machines.length
    · rw [machine_takingAll_self ws n refs hlt]
    · rw [machine_of_not_lt ws n hlt, machine_of_not_lt]
      rwa [length_machines_takingAll]
  · rw [machine_takingAll_ne ws m refs n hn]

end Workspace

end StateMachine
