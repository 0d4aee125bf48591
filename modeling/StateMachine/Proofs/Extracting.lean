import StateMachine.Proofs.Consistency

/-!
# The stages of an extraction

Selecting, collecting and reporting change only numbers and warnings; then the new machine is made, the arcs are
copied, and everything is added in one batch.
-/

namespace StateMachine.Workspace

/-! ## Collecting arcs -/

/-- Appends the arcs whose ids are new. -/
def keepNew (ws : Workspace) (kept found : List FiringArc) : List FiringArc :=
  found.foldl (fun kept a =>
    if kept.any fun b => (ws.firing b).id == (ws.firing a).id then kept else kept ++ [a]) kept

/-- Collects the arcs of one more event. -/
def collectOne (m : MachineRef) (state : List FiringArc × Workspace) (event : EntityRef) :
    List FiringArc × Workspace :=
  let (found, ws) := state.2.arcsForEvent m (state.2.entity event).id false
  (ws.keepNew state.1 found, ws)

theorem collectArcs_eq (ws : Workspace) (m : MachineRef) (events : List EntityRef) :
    ws.collectArcs m events = events.foldl (collectOne m) ([], ws) := rfl

theorem collectOne_eq (m : MachineRef) (state : List FiringArc × Workspace) (event : EntityRef) :
    collectOne m state event =
      let found := state.2.arcsForEvent m (state.2.entity event).id false
      (found.2.keepNew state.1 found.1, found.2) := rfl

theorem bare_collectOne (m : MachineRef) (state : List FiringArc × Workspace) (event : EntityRef) :
    (collectOne m state event).2.bare = state.2.bare := by
  rw [collectOne_eq]
  dsimp only
  rw [bare_arcsForEvent]

@[simp]
theorem bare_collectArcs (ws : Workspace) (m : MachineRef) (events : List EntityRef) :
    (ws.collectArcs m events).2.bare = ws.bare := by
  have hfold : ∀ state : List FiringArc × Workspace, (events.foldl (collectOne m) state).2.bare = state.2.bare := by
    induction events with
    | nil => exact fun _ => rfl
    | cons event rest ih =>
      intro state
      rw [List.foldl_cons, ih, bare_collectOne]
  rw [collectArcs_eq, hfold]

/-! ## Assembling the new machine -/

/-- What becomes of an arc that fires: a copy that belongs to no machine yet. -/
def copyOf (ws : Workspace) (a : FiringArc) : Entity := { ws.firing a with machine := none }

def copies (ws : Workspace) (arcs : List FiringArc) : List EntityRef := (ws.newEntities (arcs.map ws.copyOf)).1

def withCopies (ws : Workspace) (arcs : List FiringArc) : Workspace := (ws.newEntities (arcs.map ws.copyOf)).2

/-- The workspace with the new machine, still empty, and the copies of arcs. -/
def stocked (ws : Workspace) (m : MachineRef) (arcs : List FiringArc) : Workspace :=
  (ws.founding (Head.copied (ws.machine m).head)).withCopies arcs

/-- What the new machine takes over. -/
def batch (ws : Workspace) (m : MachineRef) (events states : List EntityRef) (arcs : List FiringArc) :
    List EntityRef :=
  events ++ states ++ (ws.founding (Head.copied (ws.machine m).head)).copies arcs ++
    ((ws.stocked m arcs).members m .bundle ++ (ws.stocked m arcs).members m .action)

theorem assemble_cases (ws : Workspace) (m : MachineRef) (events states : List EntityRef) (arcs : List FiringArc) :
    (∃ fault, ws.newMachine (Head.copied (ws.machine m).head) = (ws, .error fault) ∧
      ws.assemble m events states arcs = (ws, .error fault)) ∨
    (ws.newMachine (Head.copied (ws.machine m).head) =
        (ws.founding (Head.copied (ws.machine m).head), .ok ⟨ws.machines.length⟩) ∧
      ws.assemble m events states arcs =
        let added := (ws.stocked m arcs).add ⟨ws.machines.length⟩ ((ws.batch m events states arcs).map .entity)
        (added.1, added.2.map fun _ => ⟨ws.machines.length⟩)) := by
  unfold assemble
  rcases newMachine_cases ws (Head.copied (ws.machine m).head) with ⟨fault, hmade, _⟩ | ⟨_, _, hmade⟩
  · rw [hmade]
    exact Or.inl ⟨fault, rfl, rfl⟩
  · rw [hmade]
    right
    refine ⟨rfl, ?_⟩
    dsimp only
    split
    case h_1 hadded =>
      have hadded : (ws.stocked m arcs).add _ ((ws.batch m events states arcs).map .entity) = _ := hadded
      rw [hadded]
      rfl
    case h_2 hadded =>
      have hadded : (ws.stocked m arcs).add _ ((ws.batch m events states arcs).map .entity) = _ := hadded
      rw [hadded]
      rfl

theorem consistent_assemble (ws : Workspace) (m : MachineRef) (events states : List EntityRef)
    (arcs : List FiringArc) (h : ws.Consistent) : (ws.assemble m events states arcs).1.Consistent := by
  rcases assemble_cases ws m events states arcs with ⟨fault, _, heq⟩ | ⟨hmade, heq⟩
  · rw [heq]
    exact h
  · have hfounded := consistent_newMachine ws (Head.copied (ws.machine m).head) h
    rw [hmade] at hfounded
    rw [heq]
    exact consistent_add _ _ _ (consistent_newEntities _ _ hfounded)

/-! ## The whole extraction -/

theorem entities_reportIfEmpty (ws : Workspace) (m : MachineRef) (empty : Bool) (d : Diagnostic) :
    (ws.reportIfEmpty m empty d).entities = ws.entities := by
  unfold reportIfEmpty
  split <;> rfl

/-- The last stage: the new machine is made and the extraction is logged. -/
def finish (ws : Workspace) (m : MachineRef) (events touched : List EntityRef) (arcs : List FiringArc) :
    Workspace × Except Fault MachineRef :=
  match ws.assemble m events (ws.byNumber touched) arcs with
  | (ws, .error fault) => (ws, .error fault)
  | (ws, .ok clone) =>
    let counts := s!"{events.length} event(s), {arcs.length} arc(s), {touched.length} state(s)"
    let journal := ws.journal.within (ws.machine m).head.id fun j =>
      j.write .info s!"Extracted output machine: {counts}"
    ({ ws with journal := journal }, .ok clone)

/-- The stages after the arcs are collected. -/
def survey (ws : Workspace) (m : MachineRef) (events : List EntityRef) (arcs : List FiringArc) :
    Workspace × Except Fault MachineRef :=
  match ws.touchedStates arcs with
  | .error fault => (ws, .error fault)
  | .ok touched =>
    (ws.reportIfEmpty m touched.isEmpty (noStates (arcs.map fun a => (ws.firing a).id))).finish m events touched arcs

theorem finish_cases (ws : Workspace) (m : MachineRef) (events touched : List EntityRef) (arcs : List FiringArc) :
    let made := ws.assemble m events (ws.byNumber touched) arcs
    (∃ fault, made.2 = .error fault ∧ ws.finish m events touched arcs = (made.1, .error fault)) ∨
    ∃ clone journal, made.2 = .ok clone ∧
      ws.finish m events touched arcs = ({ made.1 with journal := journal }, .ok clone) := by
  unfold finish
  split
  case h_1 hmade =>
    rw [hmade]
    exact Or.inl ⟨_, rfl, rfl⟩
  case h_2 hmade =>
    rw [hmade]
    exact Or.inr ⟨_, _, rfl, rfl⟩

/-- The workspace in which an extraction looks up states: the arcs are collected, and nothing else has changed. -/
structure Ready (ws : Workspace) (m : MachineRef) (events : List EntityRef) (ready : Workspace) : Prop where
  bare_eq : ready.bare = ws.bare
  entities_eq : ready.entities = (ws.collectArcs m events).2.entities

theorem Ready.report {ws : Workspace} {m : MachineRef} {events : List EntityRef} {ready : Workspace}
    (h : Ready ws m events ready) (empty : Bool) (d : Diagnostic) :
    Ready ws m events (ready.reportIfEmpty m empty d) :=
  ⟨(bare_reportIfEmpty _ _ _ _).trans h.bare_eq, (entities_reportIfEmpty _ _ _ _).trans h.entities_eq⟩

/-- A report that nothing is selected does not change what is collected. -/
theorem collectArcs_reportIfEmpty (ws : Workspace) (m : MachineRef) (events : List EntityRef) (d : Diagnostic) :
    ((ws.reportIfEmpty m events.isEmpty d).collectArcs m events).1 = (ws.collectArcs m events).1 ∧
      Ready ws m events ((ws.reportIfEmpty m events.isEmpty d).collectArcs m events).2 := by
  cases events with
  | nil => exact ⟨rfl, bare_reportIfEmpty _ _ _ _, entities_reportIfEmpty _ _ _ _⟩
  | cons event rest => exact ⟨rfl, bare_collectArcs _ _ _, rfl⟩

/-- The workspace after the arcs are collected, in which it is reported if there are no events or no arcs. -/
def gathered (ws : Workspace) (m : MachineRef) (specifiers : List String) (events : List EntityRef) : Workspace :=
  let collected := (ws.reportIfEmpty m events.isEmpty (noEvents specifiers)).collectArcs m events
  collected.2.reportIfEmpty m collected.1.isEmpty (noArcs (events.map fun r => (collected.2.entity r).id))

/-- The workspace in which the new machine is made: it is also reported if there are no states. -/
def surveyed (ws : Workspace) (m : MachineRef) (specifiers : List String) (events touched : List EntityRef) :
    Workspace :=
  let gathered := ws.gathered m specifiers events
  gathered.reportIfEmpty m touched.isEmpty
    (noStates ((ws.collectArcs m events).1.map fun a => (gathered.firing a).id))

section
variable (ws : Workspace) (m : MachineRef) (specifiers : List String) (events touched : List EntityRef)

theorem ready_gathered : Ready ws m events (ws.gathered m specifiers events) :=
  (collectArcs_reportIfEmpty ws m events (noEvents specifiers)).2.report _ _

theorem ready_surveyed : Ready ws m events (ws.surveyed m specifiers events touched) :=
  (ready_gathered ws m specifiers events).report _ _

theorem extract_of_selected (h : ws.matchingEvents m specifiers = .ok events) :
    ws.extract m specifiers = (ws.gathered m specifiers events).survey m events (ws.collectArcs m events).1 := by
  rw [extract, h, ← (collectArcs_reportIfEmpty ws m events (noEvents specifiers)).1]
  rfl

theorem touchedStates_gathered (arcs : List FiringArc) :
    (ws.gathered m specifiers events).touchedStates arcs = ws.touchedStates arcs := by
  rw [← touchedStates_bare, (ready_gathered ws m specifiers events).bare_eq, touchedStates_bare]

/-- Once events are selected and states looked up, only the last stage can fail. -/
theorem extract_of_touched (h : ws.matchingEvents m specifiers = .ok events)
    (htouched : ws.touchedStates (ws.collectArcs m events).1 = .ok touched) :
    ws.extract m specifiers =
      (ws.surveyed m specifiers events touched).finish m events touched (ws.collectArcs m events).1 := by
  rw [extract_of_selected ws m specifiers events h, survey, touchedStates_gathered, htouched]
  rfl

end

/-- An extraction fails when it selects events, when it looks up states or when it adds; else it makes a machine. -/
theorem extract_cases (ws : Workspace) (m : MachineRef) (specifiers : List String) :
    (∃ fault, ws.matchingEvents m specifiers = .error fault ∧ ws.extract m specifiers = (ws, .error fault)) ∨
    ∃ events ready, ws.matchingEvents m specifiers = .ok events ∧ Ready ws m events ready ∧
      ((∃ fault, ws.touchedStates (ws.collectArcs m events).1 = .error fault ∧
          ws.extract m specifiers = (ready, .error fault)) ∨
       ∃ touched, ws.touchedStates (ws.collectArcs m events).1 = .ok touched ∧
        ws.extract m specifiers = ready.finish m events touched (ws.collectArcs m events).1) := by
  cases hevents : ws.matchingEvents m specifiers with
  | error fault =>
    left
    refine ⟨fault, rfl, ?_⟩
    rw [extract, hevents]
  | ok events =>
    right
    cases htouched : ws.touchedStates (ws.collectArcs m events).1 with
    | error fault =>
      refine ⟨events, _, rfl, ready_gathered ws m specifiers events, Or.inl ⟨fault, htouched, ?_⟩⟩
      rw [extract_of_selected ws m specifiers events hevents, survey, touchedStates_gathered, htouched]
    | ok touched =>
      exact ⟨events, _, rfl, ready_surveyed ws m specifiers events touched,
        Or.inr ⟨touched, htouched, extract_of_touched ws m specifiers events touched hevents htouched⟩⟩

/-- An extraction that succeeds has selected events. -/
theorem selected_of_extract {ws ws' : Workspace} {m clone : MachineRef} {specifiers : List String}
    (h : ws.extract m specifiers = (ws', .ok clone)) : ∃ events, ws.matchingEvents m specifiers = .ok events := by
  cases hselected : ws.matchingEvents m specifiers with
  | error fault =>
    rw [extract, hselected] at h
    cases h
  | ok events => exact ⟨events, rfl⟩

/-- Which machine an extraction makes can be computed without the workspace that it leaves behind. -/
theorem extract_of_toOption (ws : Workspace) (m clone : MachineRef) (specifiers : List String)
    (h : (ws.extract m specifiers).2.toOption = some clone) :
    ws.extract m specifiers = ((ws.extract m specifiers).1, .ok clone) :=
  Prod.ext rfl (ok_of_toOption h)

theorem consistent_extract (ws : Workspace) (m : MachineRef) (specifiers : List String) (h : ws.Consistent) :
    (ws.extract m specifiers).1.Consistent := by
  rcases extract_cases ws m specifiers with ⟨fault, _, heq⟩ | ⟨events, ready, _, hready, hrest⟩
  · rw [heq]
    exact h
  · have hc := consistent_of_bare_eq hready.bare_eq h
    rcases hrest with ⟨fault, _, heq⟩ | ⟨touched, _, heq⟩
    · rw [heq]
      exact hc
    · rw [heq]
      have hmade := consistent_assemble ready m events (ready.byNumber touched) (ws.collectArcs m events).1 hc
      rcases finish_cases ready m events touched (ws.collectArcs m events).1 with
        ⟨fault, _, heq⟩ | ⟨clone, journal, _, heq⟩
      · rw [heq]
        exact hmade
      · rw [heq]
        exact hmade

end StateMachine.Workspace
