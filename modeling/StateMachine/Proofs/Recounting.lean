import StateMachine.Proofs.Accounting
import StateMachine.Proofs.Extracted

/-!
# What the journal recounts

The warnings in the journal are those that were appended to the lists of the machines, the additions are those of
entities that machines registered, and there is one entry for each extraction that made a machine. The stamp in force
is the same after every operation, be it one that failed.
-/

namespace StateMachine

namespace Workspace

/-! ## Extractions -/

/-- The entries about machines that an operation extracts: one if it succeeds, with the numbers of the events, arcs and
states of the new machine. -/
def extractionsOf (ws : Workspace) : Operation → List JournalEntry
  | .extract m specifiers =>
    match ws.extract m specifiers with
    | (ws', .ok clone) =>
      let count (kind : Kind) := (ws'.members clone kind).length
      [extractionEntry (ws.machine m).head.id (count .event) (count .arc) (count .state)]
    | (_, .error _) => []
  | _ => []

theorem extractionsOf_error {ws ws' : Workspace} {m : MachineRef} {specifiers : List String} {fault : Fault}
    (h : ws.extract m specifiers = (ws', .error fault)) : ws.extractionsOf (.extract m specifiers) = [] := by
  simp only [extractionsOf, h]

theorem extractionsOf_ok {ws ws' : Workspace} {m clone : MachineRef} {specifiers : List String}
    {events touched : List EntityRef} (hc : ws.Consistent) (hm : m.index < ws.machines.length)
    (hselected : ws.matchingEvents m specifiers = .ok events)
    (htouched : ws.touchedStates (ws.collectArcs m events).1 = .ok touched)
    (h : ws.extract m specifiers = (ws', .ok clone)) : ws.extractionsOf (.extract m specifiers) =
      [extractionEntry (ws.machine m).head.id events.length (ws.collectArcs m events).1.length touched.length] := by
  obtain ⟨touched', htouched', hextracted⟩ := extracted_of_extract hc hm hselected h rfl
  obtain rfl : touched' = touched := Except.ok.inj (htouched'.symm.trans htouched)
  have harcs := congrArg List.length hextracted.arcs
  rw [List.length_map, List.length_map] at harcs
  simp only [extractionsOf, h, hextracted.events, harcs, hextracted.states.length_eq]

/-- The new machine takes entities over one by one, after what was reported. -/
theorem account_grown {ws ready : Workspace} {m : MachineRef} {ds : List Diagnostic} (hj : ws.journal.KeepsAll)
    (hm : m.index < ws.machines.length) (hready : Remarked ws ready m ds) (arcs : List FiringArc)
    (refs : List EntityRef) : ∃ written,
      Account ws ((ready.stocked m arcs).takingAll ready.nextMachine refs) m ds ready.nextMachine refs [] written ∧
      (((ready.stocked m arcs).takingAll ready.nextMachine refs).machine m).head = (ws.machine m).head := by
  have hmready := hready.inRange hm
  have hstill := still_stocked ready m arcs
  have hkeeps : (ready.stocked m arcs).journal.KeepsAll := hstill.journal_eq ▸ hready.keepsAll hj
  have hne : m ≠ ready.nextMachine := fun heq => Nat.lt_irrefl _ (heq ▸ hmready)
  have hsource : ((ready.stocked m arcs).takingAll ready.nextMachine refs).machine m = ready.machine m := by
    rw [machine_takingAll_ne _ _ _ _ hne, machine_stocked_old ready m arcs m hmready]
  have htaken := account_takingAll hkeeps m ready.nextMachine refs (nextMachine_lt_stocked ready m arcs)
    (by rw [machine_stocked_new]; exact List.cons_ne_nil _ _)
  have hlength : ready.machines.length ≤ ((ready.stocked m arcs).takingAll ready.nextMachine refs).machines.length := by
    rw [length_machines_takingAll]
    exact Nat.le_of_lt (nextMachine_lt_stocked ready m arcs)
  have hgrown := (hready.account hm ready.nextMachine).append (hstill.account htaken) hlength
    (congrArg Machine.head hsource) (by simp)
  rw [List.append_nil] at hgrown
  exact ⟨_, hgrown, by rw [hsource, head_of_bare_eq hready.bare_eq]⟩

theorem recounts_extract {ws : Workspace} (hj : ws.journal.KeepsAll) (m : MachineRef) (specifiers : List String)
    (hc : ws.Consistent) (hm : m.index < ws.machines.length) :
    Recounts ws (ws.extract m specifiers).1 (ws.extractionsOf (.extract m specifiers)) := by
  cases hselected : ws.matchingEvents m specifiers with
  | error fault =>
    have hfailed : ws.extract m specifiers = (ws, .error fault) := by rw [extract, hselected]
    rw [extractionsOf_error hfailed, hfailed]
    exact (Still.refl ws).recounts
  | ok events =>
    obtain ⟨touched, htouched, _⟩ := touchedStates_collected ws m events
    have hextract := extract_of_touched ws m specifiers events touched hselected htouched
    have hcounts := fun ws' clone => @extractionsOf_ok ws ws' m clone specifiers events touched hc hm hselected htouched
    obtain ⟨ds, hready⟩ := remarked_surveyed hm hj specifiers events touched
    generalize ws.surveyed m specifiers events touched = ready at hready hextract
    generalize (ws.collectArcs m events).1 = arcs at hextract hcounts
    rw [finish] at hextract
    rcases assemble_cases ready m events (ready.byNumber touched) arcs with ⟨fault, _, heq⟩ | ⟨_, heq⟩
    · -- No machine is made.
      rw [heq] at hextract
      rw [extractionsOf_error hextract, hextract]
      exact hready.recounts hm
    · rw [heq] at hextract
      dsimp only at hextract
      rw [fst_add] at hextract
      obtain ⟨written, haccount, hhead⟩ := account_grown hj hm hready arcs ((ready.stocked m arcs).accepted
        ready.nextMachine ((ready.batch m events (ready.byNumber touched) arcs).map .entity))
      rw [nextMachine] at haccount hhead
      cases hadded : ((ready.stocked m arcs).add ⟨ready.machines.length⟩
          ((ready.batch m events (ready.byNumber touched) arcs).map .entity)).2 with
      | error fault =>
        rw [hadded] at hextract
        rw [extractionsOf_error hextract, hextract]
        exact haccount.recounts
      | ok =>
        rw [hadded] at hextract
        dsimp only [Except.map] at hextract
        rw [hcounts _ _ hextract, hextract, hhead, Journal.within_write_eq_noting]
        · exact (haccount.append (account_noting _ m _ _ _ _ _) (Nat.le_refl _) rfl fun _ _ => rfl).recounts
        · rw [haccount.journal_eq]
          exact hj

/-! ## Building -/

/-- A machine that is being filled was reported nothing about, and all that it has registered is written down. -/
structure Narrated (start : Workspace) (n : MachineRef) (ws' : Workspace) : Prop where
  inRange : n.index < ws'.machines.length
  started : (ws'.machine n).registry.entries ≠ []
  known : ∀ r ∈ ws'.joined n, r.index < ws'.entities.length
  account : ∃ written, Account start ws' n [] n (ws'.joined n) [] written

theorem Narrated.make {start ws' : Workspace} {n : MachineRef} (h : Narrated start n ws') (e : Entity) :
    Narrated start n (ws'.newEntity e).2 := by
  have hlength : (ws'.newEntity e).2.entities.length = ws'.entities.length + 1 := List.length_append
  obtain ⟨written, haccount⟩ := h.account
  refine ⟨h.inRange, h.started, ?_, written, ?_⟩
  · intro r hr
    rw [hlength]
    exact Nat.lt_succ_of_lt (h.known r hr)
  · obtain ⟨hreporter, htaker, hwarnings, hjoined, hjournal, hreports, hadditions, hmade⟩ := haccount
    refine ⟨hreporter, htaker, hwarnings, hjoined, hjournal, hreports, ?_, hmade⟩
    rw [hadditions]
    exact List.map_congr_left fun r hr => by rw [entity_newEntity_old ws' e r (h.known r hr)]

theorem Narrated.keepsAll {start ws' : Workspace} {n : MachineRef} (h : Narrated start n ws')
    (hj : start.journal.KeepsAll) : ws'.journal.KeepsAll := by
  obtain ⟨written, haccount⟩ := h.account
  rw [haccount.journal_eq]
  exact hj

theorem Narrated.take {start ws' : Workspace} {n : MachineRef} (h : Narrated start n ws')
    (hj : start.journal.KeepsAll) (refs : List EntityRef) (hrefs : ∀ r ∈ refs, r.index < ws'.entities.length) :
    Narrated start n (ws'.takingAll n refs) := by
  obtain ⟨written, haccount⟩ := h.account
  have htaken := account_takingAll (h.keepsAll hj) n n refs h.inRange h.started
  have hjoined := joined_takingAll ws' n refs h.inRange h.started
  -- The labels of what was registered before are read again: an addition changes owners only.
  have hboth := haccount.append htaken (by rw [length_machines_takingAll])
    (by rw [machine_takingAll_self ws' n refs h.inRange])
    fun r _ => entity_takingAll_congr ws' n refs (additionEntry start.journal.stamp) (fun _ => rfl) r
  rw [← hjoined] at hboth
  refine ⟨by rw [length_machines_takingAll]; exact h.inRange, ?_, ?_, _, hboth⟩
  · rw [machine_takingAll_self ws' n refs h.inRange]
    exact List.append_ne_nil_of_left_ne_nil h.started _
  · rw [hjoined, length_entities_takingAll]
    exact fun r hr => (List.mem_append.mp hr).elim (h.known r) (hrefs r)

theorem narrated_founding (ws : Workspace) (head : Head) :
    Narrated (ws.founding head) ws.nextMachine (ws.founding head) := by
  have hnone : (ws.founding head).joined ws.nextMachine = [] := by rw [joined_founding, joined_nextMachine]
  have hfilling := filling_founding ws head
  refine ⟨hfilling.inRange, hfilling.started, by simp [hnone], [], ?_⟩
  rw [hnone]
  exact (Still.refl _).account_nil _

theorem narrated_addSections (ws : Workspace) (head : Head) (data : Dict) (source : String)
    (sections : List Description.Section) (hj : ws.journal.KeepsAll) :
    Narrated (ws.founding head) ws.nextMachine
      (Description.addSections (ws.founding head) ws.nextMachine data source sections).1 := by
  refine Description.addSections_preserves _ ?_ _ data source sections (narrated_founding ws head)
  intro ws' e _ h
  have hlast : (ws'.newEntity e).1.index < (ws'.newEntity e).2.entities.length := by
    simp [newEntity]
  rw [fst_add]
  refine (h.make e).take hj _ fun r hr => ?_
  obtain ⟨rest, hrest⟩ := (accepted_initial (ws'.newEntity e).2 ws.nextMachine [.entity (ws'.newEntity e).1]).1
  have hmem : Candidate.entity r ∈ [Candidate.entity (ws'.newEntity e).1] := by
    rw [← hrest]
    exact List.mem_append_left _ (List.mem_map_of_mem hr)
  obtain rfl := Candidate.entity.inj (List.mem_singleton.mp hmem)
  exact hlast

theorem recounts_build {ws : Workspace} (hj : ws.journal.KeepsAll) (data : Dict) (source : String) (validate : Bool) :
    Recounts ws (Description.build ws data source validate).1 [] := by
  rcases Description.build_stages ws data source validate with ⟨fault, hbuild⟩ | ⟨head, _, hbuild⟩
  · rw [hbuild]
    exact (Still.refl ws).recounts
  · have hfilled := narrated_addSections ws head data source Description.Section.all hj
    rw [← nextMachine] at hbuild
    generalize (Description.addSections (ws.founding head) ws.nextMachine data source
      Description.Section.all).1 = filled at hfilled hbuild
    obtain ⟨written, haccount⟩ := hfilled.account
    have hwhole := (still_founding ws head).account haccount
    rcases hbuild with hbuild | hbuild
    · rw [hbuild]
      exact hwhole.recounts
    · obtain ⟨ds, hchecked⟩ := remarked_assertValid hfilled.inRange (hfilled.keepsAll hj)
      have hboth := hwhole.append (hchecked.account hfilled.inRange _)
        (Nat.le_of_eq (length_machines_of_bare_eq hchecked.bare_eq).symm) (head_of_bare_eq hchecked.bare_eq _)
        fun r _ => additionEntry_of_bare_eq hchecked.bare_eq _ r
      rw [hbuild]
      exact hboth.recounts

/-! ## Operations -/

/-- The machine that an operation is about, if it is about one. -/
def subject? : Operation → Option MachineRef
  | .add m _ | .editHead m _ | .setMessage m _ | .report m _ | .renumber m | .assertValid m | .resolve m _ _
  | .extract m _ | .render m => some m
  | .make _ | .start _ | .build .. | .edit .. | .setJournal _ => none

def keepsJournal : Operation → Bool
  | .setJournal _ => false
  | _ => true

/-- The operation is about a machine that is there, if about any, and keeps the journal in use. -/
def Noted (ws : Workspace) (operation : Operation) : Prop :=
  (∀ m ∈ subject? operation, m.index < ws.machines.length) ∧ keepsJournal operation = true

instance (ws : Workspace) (operation : Operation) : Decidable (ws.Noted operation) :=
  inferInstanceAs (Decidable (_ ∧ _))

theorem recounts_perform {ws : Workspace} (operation : Operation) (hc : ws.Consistent) (hj : ws.journal.KeepsAll)
    (hnoted : ws.Noted operation) : Recounts ws (ws.perform operation) (ws.extractionsOf operation) := by
  obtain ⟨hsubject, hkeeps⟩ := hnoted
  cases operation with
  | make e =>
    have h : Still ws (ws.newEntity e).2 := ⟨fun _ => rfl, fun _ => rfl, rfl⟩
    exact h.recounts
  | start head => exact (still_newMachine ws head).recounts
  | build data source validate => exact recounts_build hj data source validate
  | add m things => exact recounts_add hj m things hc (hsubject m rfl)
  | edit r change =>
    have h : Still ws (ws.modifyEntity r change.apply) := ⟨fun _ => rfl, fun _ => rfl, rfl⟩
    exact h.recounts
  | editHead m change =>
    have h := still_modifyMachine ws m (fun x => { x with head := change.apply x.head }) (fun _ => rfl) fun _ => rfl
    exact h.recounts
  | setMessage m message =>
    have h : Still ws (ws.setMessage m message).1 := by
      rw [setMessage]
      split
      · exact .refl ws
      · exact still_modifyMachine ws m _ (fun _ => rfl) fun _ => rfl
    exact h.recounts
  | report m d => exact (remarked_report (hsubject m rfl) hj d).recounts (hsubject m rfl)
  | renumber m => exact (remarked_renumber ws m).recounts (hsubject m rfl)
  | assertValid m =>
    obtain ⟨ds, h⟩ := remarked_assertValid (hsubject m rfl) hj
    exact h.recounts (hsubject m rfl)
  | resolve m eventId raw =>
    obtain ⟨ds, h⟩ := remarked_arcsForEvent (hsubject m rfl) hj eventId raw
    exact h.recounts (hsubject m rfl)
  | extract m specifiers => exact recounts_extract hj m specifiers hc (hsubject m rfl)
  | render m =>
    obtain ⟨ds, h⟩ := remarked_render (hsubject m rfl) hj
    exact h.recounts (hsubject m rfl)
  | setJournal journal => cases hkeeps

/-- A machine takes the first things of a list, up to one that it refuses when it comes to it. -/
theorem accepted_cases (ws : Workspace) (m : MachineRef) (things : List Candidate) :
    ∃ rest, things = (ws.accepted m things).map .entity ++ rest ∧
      (((ws.add m things).2 = .ok () ∧ rest = []) ∨
        ∃ fault c others, (ws.add m things).2 = .error fault ∧ rest = c :: others ∧
          (ws.add m things).1.refusal? m c = some fault) := by
  induction things generalizing ws with
  | nil => exact ⟨[], rfl, Or.inl ⟨rfl, rfl⟩⟩
  | cons c others ih =>
    cases hc : ws.refusal? m c with
    | some fault =>
      rw [add, addOne_refused ws m c fault hc, accepted_refused ws m c others fault hc]
      exact ⟨_, rfl, Or.inr ⟨fault, c, others, rfl, rfl, hc⟩⟩
    | none =>
      cases c with
      | foreign typeName => simp [refusal?] at hc
      | entity r =>
        obtain ⟨rest, heq, hrest⟩ := ih (ws.taking m r)
        rw [add, addOne_taken ws m r hc, accepted_taken ws m r others hc]
        exact ⟨rest, congrArg _ heq, hrest⟩

/-- What an operation leaves behind: no list of a machine is cut, the stamp in force is the same, and of a list of
things to add exactly those before the one that was refused are accounted for. -/
structure Traced (ws : Workspace) (operation : Operation) : Prop where
  stamp_eq : (ws.perform operation).journal.stamp = ws.journal.stamp
  reported : ∀ m, (ws.machine m).warnings <+: ((ws.perform operation).machine m).warnings
  joined : ∀ m, ws.joined m <+: (ws.perform operation).joined m
  registered_eq : ∀ m, m.index < (ws.perform operation).machines.length →
    (ws.perform operation).registered m = ((ws.perform operation).machine m).allState :: (ws.perform operation).joined m
  batch : ∀ m things, operation = .add m things → ∃ (taken : List EntityRef) (rest : List Candidate),
    things = taken.map .entity ++ rest ∧
    ws.additionsSince (ws.perform operation) = taken.map (fun r => additionEntry ws.journal.stamp (ws.entity r)) ∧
      (((ws.add m things).2 = .ok () ∧ rest = []) ∨
        ∃ fault c others, (ws.add m things).2 = .error fault ∧ rest = c :: others ∧
          (ws.perform operation).refusal? m c = some fault)

theorem traced_perform {ws : Workspace} (operation : Operation) (hc : ws.Consistent) (hj : ws.journal.KeepsAll)
    (hnoted : ws.Noted operation) : Traced ws operation where
  stamp_eq := (recounts_perform operation hc hj hnoted).stamp_eq
  reported := (recounts_perform operation hc hj hnoted).reported
  joined := (recounts_perform operation hc hj hnoted).joined
  registered_eq m hm := by
    rw [registered, Registry.entities, ((consistent_perform ws operation hc).machine m hm).entries_eq, List.map_cons,
      Workspace.joined]
  batch := by
    rintro m things rfl
    have hm : m.index < ws.machines.length := hnoted.1 m rfl
    obtain ⟨rest, heq, hrest⟩ := accepted_cases ws m things
    refine ⟨_, rest, heq, ?_, hrest⟩
    rw [perform, fst_add, (account_takingAll hj m m _ hm
      (List.ne_nil_of_mem (hc.machine m hm).allState_mem)).additionsSince_eq]
    exact List.map_congr_left fun r _ =>
      entity_takingAll_congr ws m _ (additionEntry ws.journal.stamp) (fun _ => rfl) r

/-! ## Runs -/

/-- Every operation of the run is about a machine that is there by then, and keeps the journal in use. -/
def NotedRun (ws : Workspace) : List Operation → Prop
  | [] => True
  | operation :: rest => ws.Noted operation ∧ (ws.perform operation).NotedRun rest

instance decidableNotedRun (ws : Workspace) : (operations : List Operation) → Decidable (ws.NotedRun operations)
  | [] => isTrue trivial
  | operation :: rest =>
    have := decidableNotedRun (ws.perform operation) rest
    inferInstanceAs (Decidable (ws.Noted operation ∧ (ws.perform operation).NotedRun rest))

/-- What is said about the single operations of a run, one after the other. -/
def along (page : Workspace → Operation → List JournalEntry) (ws : Workspace) : List Operation → List JournalEntry
  | [] => []
  | operation :: rest => page ws operation ++ (ws.perform operation).along page rest

/-- The journal agrees with the lists of the machines: its warnings are those that machines have got, its additions are
those of entities that machines have registered, in order, and there is one entry for each extraction that succeeded. -/
theorem journal_run {ws : Workspace} (operations : List Operation) (hreach : ws.Reachable)
    (hj : ws.journal.KeepsAll) (hnoted : ws.NotedRun operations) :
    (operations.foldl perform ws).journal.entriesAt .warning = ws.journal.entriesAt .warning ++
      ws.along (fun ws operation => ws.reportsSince (ws.perform operation)) operations ∧
    (operations.foldl perform ws).journal.entriesAt .debug = ws.journal.entriesAt .debug ++
      ws.along (fun ws operation => ws.additionsSince (ws.perform operation)) operations ∧
    (operations.foldl perform ws).journal.entriesAt .info = ws.journal.entriesAt .info ++
      ws.along extractionsOf operations ∧
    ∀ earlier operation later, operations = earlier ++ operation :: later →
      Traced (earlier.foldl perform ws) operation := by
  -- Each operation starts from another workspace, of which it has to be known again that its journal keeps everything.
  induction operations generalizing ws with
  | nil => exact ⟨(List.append_nil _).symm, (List.append_nil _).symm, (List.append_nil _).symm, by simp⟩
  | cons operation rest ih =>
    have hrecounts := recounts_perform operation hreach.consistent hj hnoted.1
    have hkeeps : (ws.perform operation).journal.KeepsAll := by
      rw [Journal.KeepsAll, hrecounts.threshold_eq]
      exact hj
    obtain ⟨hreports, hadditions, hmade, htraced⟩ := ih (reachable_perform ws operation hreach) hkeeps hnoted.2
    simp only [List.foldl_cons, along]
    refine ⟨?_, ?_, ?_, ?_⟩
    · rw [hreports, hrecounts.reports_eq, List.append_assoc]
    · rw [hadditions, hrecounts.additions_eq, List.append_assoc]
    · rw [hmade, hrecounts.made_eq, List.append_assoc]
    · intro earlier operation' later heq
      cases earlier with
      | nil =>
        obtain ⟨rfl, rfl⟩ := List.cons.inj heq
        exact traced_perform operation hreach.consistent hj hnoted.1
      | cons first earlier =>
        obtain ⟨rfl, hrest⟩ := List.cons.inj heq
        exact htraced earlier operation' later hrest

/-- The operations of a journal that keeps everything: two machines, one of them with an empty id. A list of additions
fails after the first thing, two machines are reported about, one extraction fails and one succeeds, and an arc is
skipped in each resolution. -/
def loggedRun : List Operation :=
  filling "m" [{ id := "s", detail := .state [] [] none }, { id := "go", detail := .event (some "(") },
    { id := "a", detail := .arc { fromId := some "s", toId := some "s", eventId := some "go" } },
    { id := "b", detail := .arc { fromId := some "t", toId := some "s", eventId := some "go" } }] ++
  [.start { id := some "" }, .make { id := "k", detail := .bundle }, .add ⟨1⟩ [.entity ⟨6⟩, .entity ⟨6⟩, .entity ⟨1⟩],
    .report ⟨1⟩ (.warning "look" none []), .extract ⟨0⟩ ["ui"], .extract ⟨0⟩ [], .resolve ⟨0⟩ "go" true]

/-- A workspace with nothing in it but a journal that keeps everything. -/
def attentive : Workspace := { journal := { threshold := Level.debug.rank } }

theorem journal_run_loggedRun :
    attentive.journal.KeepsAll ∧ attentive.NotedRun loggedRun ∧
    (loggedRun.foldl perform attentive).journal.entriesAt .warning =
      [⟨.warning, "-", "look"⟩, ⟨.warning, "m", "arc 'b' has an unresolved state, skipping it"⟩,
        ⟨.warning, "m", "arc 'b' has an unresolved state, skipping it"⟩] ∧
    (loggedRun.foldl perform attentive).journal.entriesAt .debug =
      ["state 's'", "event 'go'", "arc 'a'", "arc 'b'", "class 'k'", "event 'go'", "state 's'", "arc 'a'"].map
        (fun label => ⟨.debug, "-", "Added " ++ label⟩) ∧
    (loggedRun.foldl perform attentive).journal.entriesAt .info =
      [⟨.info, "m", "Extracted output machine: 1 event(s), 1 arc(s), 1 state(s)"⟩] := by
  have hj : attentive.journal.KeepsAll := by decide
  have hnoted : attentive.NotedRun loggedRun := by decide +kernel
  obtain ⟨hreports, hadditions, hmade, _⟩ := journal_run loggedRun ⟨_, [], rfl⟩ hj hnoted
  refine ⟨hj, hnoted, hreports.trans ?_, hadditions.trans ?_, hmade.trans ?_⟩
  · decide +kernel
  · decide +kernel
  · decide +kernel

end Workspace

end StateMachine
