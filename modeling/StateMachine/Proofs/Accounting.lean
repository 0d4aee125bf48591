import StateMachine.Proofs.Journaling

/-!
# Accounts of what happened

What was written to the journal between two workspaces is compared with what the lists of the machines have got in the
meantime: one machine got warnings, one registered entities. Accounts of stages are put together to those of operations.
-/

namespace StateMachine

namespace Workspace

/-! ## What happened between two workspaces -/

/-- The entries for the warnings that machines have got, machine by machine. -/
def reportsSince (ws ws' : Workspace) : List JournalEntry :=
  (List.range ws'.machines.length).flatMap fun i =>
    ((ws'.machine ⟨i⟩).warnings.drop (ws.machine ⟨i⟩).warnings.length).map (reportEntry (ws'.machine ⟨i⟩).head.id)

/-- The entries for the entities that machines have registered, machine by machine. The states `#ALL` that new machines
start with are not among them. -/
def additionsSince (ws ws' : Workspace) : List JournalEntry :=
  (List.range ws'.machines.length).flatMap fun i =>
    ((ws'.joined ⟨i⟩).drop (ws.joined ⟨i⟩).length).map fun r => additionEntry ws.journal.stamp (ws'.entity r)

/-- The journal has got an entry for each warning and each addition between two workspaces, and these entries about
machines that were made. Nothing was taken from the lists of the machines, and the stamp in force is the same. -/
structure Recounts (ws ws' : Workspace) (made : List JournalEntry) : Prop where
  reports_eq : ws'.journal.entriesAt .warning = ws.journal.entriesAt .warning ++ reportsSince ws ws'
  additions_eq : ws'.journal.entriesAt .debug = ws.journal.entriesAt .debug ++ additionsSince ws ws'
  made_eq : ws'.journal.entriesAt .info = ws.journal.entriesAt .info ++ made
  stamp_eq : ws'.journal.stamp = ws.journal.stamp
  threshold_eq : ws'.journal.threshold = ws.journal.threshold
  reported : ∀ m, (ws.machine m).warnings <+: (ws'.machine m).warnings
  joined : ∀ m, ws.joined m <+: ws'.joined m

/-- Where only one place of a range has elements, they are all there are. -/
theorem flatMap_range_eq {α : Type} (n i : Nat) (f : Nat → List α) (hi : f i ≠ [] → i < n)
    (h : ∀ j, j ≠ i → f j = []) : (List.range n).flatMap f = f i := by
  induction n with
  | zero =>
    have hnone : f i = [] := by_contra fun hsome => absurd (hi hsome) (Nat.not_lt_zero _)
    rw [hnone]
    rfl
  | succ n ih =>
    rw [List.range_succ, List.flatMap_append, List.flatMap_singleton]
    by_cases hn : n = i
    · subst hn
      have hbefore : (List.range n).flatMap f = [] := by
        rw [List.flatMap_eq_nil_iff]
        exact fun j hj => h j (Nat.ne_of_lt (List.mem_range.mp hj))
      rw [hbefore, List.nil_append]
    · rw [h n hn, List.append_nil]
      exact ih fun hsome => lt_of_le_of_ne (Nat.le_of_lt_succ (hi hsome)) (Ne.symm hn)

theorem flatMap_range_one {α β : Type} (n : Nat) (m : MachineRef) (xs : List α) (entry : MachineRef → α → β)
    (hm : xs ≠ [] → m.index < n) :
    ((List.range n).flatMap fun i => (if (⟨i⟩ : MachineRef) = m then xs else []).map (entry ⟨i⟩)) =
      xs.map (entry m) := by
  rw [flatMap_range_eq n m.index]
  · simp
  · intro hsome
    refine hm ?_
    rintro rfl
    simp at hsome
  · intro j hj
    have hne : (⟨j⟩ : MachineRef) ≠ m := fun heq => hj (heq ▸ rfl)
    simp [hne]

/-- One machine got these warnings, one registered these entities, and all was written down. -/
structure Account (ws ws' : Workspace) (m : MachineRef) (ds : List Diagnostic) (n : MachineRef) (refs : List EntityRef)
    (made written : List JournalEntry) : Prop where
  reporter : ds ≠ [] → m.index < ws'.machines.length
  taker : refs ≠ [] → n.index < ws'.machines.length
  warnings_eq : ∀ k, (ws'.machine k).warnings = (ws.machine k).warnings ++ if k = m then ds else []
  joined_eq : ∀ k, ws'.joined k = ws.joined k ++ if k = n then refs else []
  journal_eq : ws'.journal = ws.journal.noting written
  reports_eq : written.filter (·.level = .warning) = ds.map (reportEntry (ws'.machine m).head.id)
  additions_eq : written.filter (·.level = .debug) =
    refs.map fun r => additionEntry ws.journal.stamp (ws'.entity r)
  made_eq : written.filter (·.level = .info) = made

section
variable {ws ws' : Workspace} {m n : MachineRef} {ds : List Diagnostic} {refs : List EntityRef}
  {made written : List JournalEntry}

theorem Account.reportsSince_eq (h : Account ws ws' m ds n refs made written) :
    reportsSince ws ws' = ds.map (reportEntry (ws'.machine m).head.id) := by
  have hdrop : ∀ k : MachineRef, (ws'.machine k).warnings.drop (ws.machine k).warnings.length =
      if k = m then ds else [] := fun k => by rw [h.warnings_eq, List.drop_left]
  simp only [reportsSince, hdrop]
  exact flatMap_range_one _ m ds (fun k => reportEntry (ws'.machine k).head.id) h.reporter

theorem Account.additionsSince_eq (h : Account ws ws' m ds n refs made written) :
    additionsSince ws ws' = refs.map fun r => additionEntry ws.journal.stamp (ws'.entity r) := by
  have hdrop : ∀ k : MachineRef, (ws'.joined k).drop (ws.joined k).length = if k = n then refs else [] :=
    fun k => by rw [h.joined_eq, List.drop_left]
  simp only [additionsSince, hdrop]
  exact flatMap_range_one _ n refs (fun _ r => additionEntry ws.journal.stamp (ws'.entity r)) h.taker

theorem entriesAt_noting (j : Journal) (written : List JournalEntry) (level : Level) :
    (j.noting written).entriesAt level = j.entriesAt level ++ written.filter (·.level = level) :=
  List.filter_append _ _

theorem Account.recounts (h : Account ws ws' m ds n refs made written) : Recounts ws ws' made where
  reports_eq := by rw [h.journal_eq, entriesAt_noting, h.reports_eq, h.reportsSince_eq]
  additions_eq := by rw [h.journal_eq, entriesAt_noting, h.additions_eq, h.additionsSince_eq]
  made_eq := by rw [h.journal_eq, entriesAt_noting, h.made_eq]
  stamp_eq := by rw [h.journal_eq, Journal.stamp_noting]
  threshold_eq := by rw [h.journal_eq, Journal.threshold_noting]
  reported k := ⟨_, (h.warnings_eq k).symm⟩
  joined k := ⟨_, (h.joined_eq k).symm⟩

end

/-! ## Levels of entries -/

theorem filter_map_reportEntry (level : Level) (id : Option String) (ds : List Diagnostic) :
    (ds.map (reportEntry id)).filter (·.level = level) = if level = .warning then ds.map (reportEntry id) else [] := by
  cases level <;> simp [List.filter_map, reportEntry, Function.comp_def]

theorem filter_map_additionEntry (level : Level) (stamp : String) (f : EntityRef → Entity) (refs : List EntityRef) :
    (refs.map fun r => additionEntry stamp (f r)).filter (·.level = level) =
      if level = .debug then refs.map fun r => additionEntry stamp (f r) else [] := by
  cases level <;> simp [List.filter_map, additionEntry, Function.comp_def]

theorem filter_cons_extractionEntry (level : Level) (id : Option String) (events arcs states : Nat) :
    [extractionEntry id events arcs states].filter (·.level = level) =
      if level = .info then [extractionEntry id events arcs states] else [] := by
  cases level <;> simp [extractionEntry]

/-! ## Operations that only report, and additions -/

/-- Nothing was reported, added or written. -/
structure Still (ws ws' : Workspace) : Prop where
  warnings_eq : ∀ k, (ws'.machine k).warnings = (ws.machine k).warnings
  joined_eq : ∀ k, ws'.joined k = ws.joined k
  journal_eq : ws'.journal = ws.journal

section
variable {ws ws' : Workspace} {m n : MachineRef} {ds : List Diagnostic} {refs : List EntityRef}
  {made written : List JournalEntry}

theorem Still.refl (ws : Workspace) : Still ws ws := ⟨fun _ => rfl, fun _ => rfl, rfl⟩

theorem Still.account_nil (h : Still ws ws') (m : MachineRef) : Account ws ws' m [] m [] [] [] :=
  ⟨fun hsome => absurd rfl hsome, fun hsome => absurd rfl hsome, by simpa using h.warnings_eq,
    by simpa using h.joined_eq, by simpa using h.journal_eq, rfl, rfl, rfl⟩

theorem Still.recounts (h : Still ws ws') : Recounts ws ws' [] := (h.account_nil ⟨0⟩).recounts

theorem Still.account {ws'' : Workspace} (h : Still ws ws') (h' : Account ws' ws'' m ds n refs made written) :
    Account ws ws'' m ds n refs made written := by
  obtain ⟨hreporter, htaker, hwarnings, hjoined, hjournal, hreports, hadditions, hmade⟩ := h'
  simp only [h.warnings_eq, h.joined_eq, h.journal_eq] at hwarnings hjoined hjournal hadditions
  exact ⟨hreporter, htaker, hwarnings, hjoined, hjournal, hreports, hadditions, hmade⟩

theorem additionEntry_of_bare_eq (h : ws'.bare = ws.bare) (stamp : String) (r : EntityRef) :
    additionEntry stamp (ws'.entity r) = additionEntry stamp (ws.entity r) := by
  have hkind : (ws'.entity r).kind = (ws.entity r).kind := congrFun (kindOf_of_bare_eq h) r
  rw [additionEntry, Entity.label, hkind, id_entity_of_bare_eq h]
  rfl

/-- An account can be continued as long as the machine and the entities that it is about keep their names. -/
theorem Account.append {ws'' : Workspace} {later : List Diagnostic} {others : List EntityRef}
    {made' written' : List JournalEntry} (h : Account ws ws' m ds n refs made written)
    (h' : Account ws' ws'' m later n others made' written') (hlength : ws'.machines.length ≤ ws''.machines.length)
    (hhead : (ws''.machine m).head = (ws'.machine m).head)
    (hlabels : ∀ r ∈ refs, additionEntry ws.journal.stamp (ws''.entity r) =
      additionEntry ws.journal.stamp (ws'.entity r)) :
    Account ws ws'' m (ds ++ later) n (refs ++ others) (made ++ made') (written ++ written') where
  reporter hsome := by
    by_cases hds : ds = []
    · exact h'.reporter (by simpa [hds] using hsome)
    · exact Nat.lt_of_lt_of_le (h.reporter hds) hlength
  taker hsome := by
    by_cases hrefs : refs = []
    · exact h'.taker (by simpa [hrefs] using hsome)
    · exact Nat.lt_of_lt_of_le (h.taker hrefs) hlength
  warnings_eq k := by
    rw [h'.warnings_eq, h.warnings_eq, List.append_assoc]
    by_cases hk : k = m <;> simp [hk]
  joined_eq k := by
    rw [h'.joined_eq, h.joined_eq, List.append_assoc]
    by_cases hk : k = n <;> simp [hk]
  journal_eq := by rw [h'.journal_eq, h.journal_eq, Journal.noting_noting]
  reports_eq := by rw [List.filter_append, h.reports_eq, h'.reports_eq, List.map_append, hhead]
  additions_eq := by
    rw [List.filter_append, h.additions_eq, h'.additions_eq, List.map_append, List.map_congr_left hlabels,
      h.journal_eq, Journal.stamp_noting]
  made_eq := by rw [List.filter_append, h.made_eq, h'.made_eq]

theorem Remarked.account (h : Remarked ws ws' m ds) (hm : m.index < ws.machines.length) (n : MachineRef) :
    Account ws ws' m ds n [] [] (ds.map (reportEntry (ws.machine m).head.id)) where
  reporter := fun _ => h.inRange hm
  taker := fun hsome => absurd rfl hsome
  warnings_eq := h.warnings_eq
  joined_eq k := by simp [joined_of_bare_eq h.bare_eq]
  journal_eq := h.journal_eq
  reports_eq := by rw [filter_map_reportEntry, if_pos rfl, head_of_bare_eq h.bare_eq]
  additions_eq := by rw [filter_map_reportEntry, if_neg (by decide), List.map_nil]
  made_eq := by rw [filter_map_reportEntry, if_neg (by decide)]

theorem Remarked.recounts (h : Remarked ws ws' m ds) (hm : m.index < ws.machines.length) : Recounts ws ws' [] :=
  (h.account hm m).recounts

theorem account_noting (ws : Workspace) (m n : MachineRef) (id : Option String) (events arcs states : Nat) :
    Account ws { ws with journal := ws.journal.noting [extractionEntry id events arcs states] } m [] n []
      [extractionEntry id events arcs states] [extractionEntry id events arcs states] where
  reporter := fun hsome => absurd rfl hsome
  taker := fun hsome => absurd rfl hsome
  warnings_eq := fun k => by simp [machine]
  joined_eq := fun k => by simp [Workspace.joined, machine]
  journal_eq := rfl
  reports_eq := by rw [filter_cons_extractionEntry, if_neg (by decide), List.map_nil]
  additions_eq := by rw [filter_cons_extractionEntry, if_neg (by decide), List.map_nil]
  made_eq := by rw [filter_cons_extractionEntry, if_pos rfl]

end

theorem warnings_founding (ws : Workspace) (head : Head) (k : MachineRef) :
    ((ws.founding head).machine k).warnings = (ws.machine k).warnings := by
  by_cases hk : k = ws.nextMachine
  · have hnone : ws.machine k = default := machine_of_not_lt ws k (by simp [hk, nextMachine])
    rw [hnone, hk, machine_founding_next]
    rfl
  · rw [machine_founding_ne ws head k hk]

theorem still_founding (ws : Workspace) (head : Head) : Still ws (ws.founding head) :=
  ⟨warnings_founding ws head, fun k => joined_founding ws k head, rfl⟩

theorem still_newMachine (ws : Workspace) (head : Head) : Still ws (ws.newMachine head).1 := by
  rcases newMachine_cases ws head with ⟨fault, heq, _⟩ | ⟨_, _, heq⟩
  · rw [heq]
    exact .refl ws
  · rw [heq]
    exact still_founding ws head

theorem still_modifyMachine (ws : Workspace) (m : MachineRef) (f : Machine → Machine)
    (hwarnings : ∀ x, (f x).warnings = x.warnings) (hregistry : ∀ x, (f x).registry = x.registry) :
    Still ws (ws.modifyMachine m f) where
  warnings_eq k := by
    rcases machine_modifyMachine_cases ws m f k with heq | ⟨heq, _⟩
    · rw [heq]
    · rw [heq, hwarnings]
  joined_eq k := joined_modifyMachine ws k m f hregistry
  journal_eq := rfl

theorem still_stocked (ws : Workspace) (m : MachineRef) (arcs : List FiringArc) : Still ws (ws.stocked m arcs) where
  warnings_eq k := by
    rw [← warnings_founding ws (ws.headFor m) k, stocked, withCopies, newEntities_eq]
    rfl
  joined_eq k := joined_stocked ws k m arcs
  journal_eq := by
    rw [stocked, withCopies, newEntities_eq]
    rfl

section
variable {ws : Workspace} (hj : ws.journal.KeepsAll)
include hj

theorem account_takingAll (m n : MachineRef) (refs : List EntityRef) (hn : n.index < ws.machines.length)
    (hsome : (ws.machine n).registry.entries ≠ []) :
    Account ws (ws.takingAll n refs) m [] n refs []
      (refs.map fun r => additionEntry ws.journal.stamp ((ws.takingAll n refs).entity r)) where
  reporter := fun hsome => absurd rfl hsome
  taker := fun _ => by rwa [length_machines_takingAll]
  warnings_eq := fun k => by simp [warnings_takingAll]
  joined_eq := by
    intro k
    by_cases hk : k = n
    · rw [hk, joined_takingAll ws n refs hn hsome, if_pos rfl]
    · rw [joined_takingAll_ne ws k n refs hk, if_neg hk, List.append_nil]
  journal_eq := by
    rw [journal_takingAll n refs hj]
    refine congrArg _ (List.map_congr_left fun r _ => ?_)
    exact (entity_takingAll_congr ws n refs (additionEntry ws.journal.stamp) (fun _ => rfl) r).symm
  reports_eq := by simp [filter_map_additionEntry]
  additions_eq := by rw [filter_map_additionEntry, if_pos rfl]
  made_eq := by simp [filter_map_additionEntry]

theorem recounts_add (n : MachineRef) (things : List Candidate) (hc : ws.Consistent)
    (hn : n.index < ws.machines.length) : Recounts ws (ws.add n things).1 [] := by
  rw [fst_add]
  exact (account_takingAll hj n n _ hn (List.ne_nil_of_mem (hc.machine n hn).allState_mem)).recounts

end

end Workspace

end StateMachine
