import StateMachine.Proofs.Building
import StateMachine.Proofs.Extracting
import StateMachine.SwitchTable

/-!
# Runs

What a program can do with a workspace, one operation after the other, and what holds after all runs.
-/

namespace StateMachine

/-- A change to the fields of an entity. The kind of an entity never changes. -/
structure Change where
  apply : Entity → Entity
  kind_apply : ∀ e, (apply e).kind = e.kind

/-- A change to what a machine says about itself, except for its message. -/
structure HeadChange where
  apply : Head → Head
  message_apply : ∀ h, (apply h).ownMessage = h.ownMessage

/-- One thing to do. What only reads is left out. -/
inductive Operation where
  | make (e : Entity)
  | start (head : Head)
  | build (data : Dict) (source : String) (validate : Bool)
  | add (m : MachineRef) (things : List Workspace.Candidate)
  | edit (r : EntityRef) (change : Change)
  | editHead (m : MachineRef) (change : HeadChange)
  | setMessage (m : MachineRef) (message : String)
  | report (m : MachineRef) (d : Diagnostic)
  | renumber (m : MachineRef)
  | assertValid (m : MachineRef)
  | resolve (m : MachineRef) (eventId : String) (raw : Bool)
  | extract (m : MachineRef) (specifiers : List String)
  | render (m : MachineRef)
  | setJournal (journal : Journal)

namespace Workspace

/-- The workspace after an operation, be it one that failed. -/
def perform (ws : Workspace) : Operation → Workspace
  | .make e => (ws.newEntity e).2
  | .start head => (ws.newMachine head).1
  | .build data source validate => (Description.build ws data source validate).1
  | .add m things => (ws.add m things).1
  | .edit r change => ws.modifyEntity r change.apply
  | .editHead m change => ws.modifyMachine m fun x => { x with head := change.apply x.head }
  | .setMessage m message => (ws.setMessage m message).1
  | .report m d => ws.report m d
  | .renumber m => ws.renumber m
  | .assertValid m => (ws.assertValid m).1
  | .resolve m eventId raw => (ws.arcsForEvent m eventId raw).2
  | .extract m specifiers => (ws.extract m specifiers).1
  | .render m => (SwitchTable.render ws m).1
  | .setJournal journal => { ws with journal := journal }

/-- The workspaces that operations lead to, starting from nothing. -/
def Reachable (ws : Workspace) : Prop :=
  ∃ journal operations, ws = List.foldl perform { journal } operations

theorem reachable_perform (ws : Workspace) (operation : Operation) (h : ws.Reachable) :
    (ws.perform operation).Reachable := by
  obtain ⟨journal, operations, rfl⟩ := h
  refine ⟨journal, operations ++ [operation], ?_⟩
  rw [List.foldl_append]
  rfl

/-! ## Consistency of single operations -/

theorem consistent_setMessage (ws : Workspace) (m : MachineRef) (message : String) (h : ws.Consistent) :
    (ws.setMessage m message).1.Consistent := by
  unfold setMessage
  split
  case h_1 => exact h
  case h_2 hlegal =>
    apply consistent_modifyMachine ws m _ _ h
    intro hm
    have hx := h.machine m hm
    refine ⟨hx.entries_eq, hx.keys_nodup, hx.known, hx.allState_kind, hx.added_kind, hx.members_eq,
      hx.not_reserved, ?_⟩
    intro text htext
    rw [← Option.some.inj htext]
    exact hlegal

theorem consistent_editHead (ws : Workspace) (m : MachineRef) (change : HeadChange) (h : ws.Consistent) :
    (ws.modifyMachine m fun x => { x with head := change.apply x.head }).Consistent := by
  apply consistent_modifyMachine ws m _ _ h
  intro hm
  have hx := h.machine m hm
  refine ⟨hx.entries_eq, hx.keys_nodup, hx.known, hx.allState_kind, hx.added_kind, hx.members_eq,
    hx.not_reserved, ?_⟩
  rw [change.message_apply]
  exact hx.message_legal

theorem consistent_build (ws : Workspace) (data : Dict) (source : String) (validate : Bool) (h : ws.Consistent) :
    (Description.build ws data source validate).1.Consistent := by
  rcases Description.build_cases ws data source validate with ⟨fault, hbuild⟩ | ⟨head, hmade, hbuild⟩
  · rw [hbuild]
    exact h
  · have hfounded := consistent_newMachine ws head h
    rw [hmade] at hfounded
    refine consistent_of_bare_eq hbuild (Description.addSections_preserves _ ?_ _ _ _ _ hfounded)
    exact fun ws' e _ h' => consistent_add _ _ _ (consistent_newEntity ws' e h')

theorem bare_functions (ws : Workspace) (m : MachineRef) (events : List EntityRef) :
    (SwitchTable.functions ws m events).1.bare = ws.bare := by
  induction events generalizing ws with
  | nil => rfl
  | cons event rest ih =>
    have hresolved := bare_arcsForEvent ws m (ws.entity event).id false
    rw [SwitchTable.functions]
    generalize ws.arcsForEvent m (ws.entity event).id false = resolved at hresolved
    obtain ⟨arcs, ws₁⟩ := resolved
    dsimp only at hresolved ⊢
    split
    case h_1 => exact hresolved
    case h_2 =>
      have hrest := (ih ws₁).trans hresolved
      split
      case h_1 heq => rwa [heq] at hrest
      case h_2 heq => rwa [heq] at hrest

@[simp]
theorem bare_render (ws : Workspace) (m : MachineRef) : (SwitchTable.render ws m).1.bare = ws.bare := by
  have hwritten := bare_functions (ws.states m).2 m ((ws.states m).2.members m .event)
  have hstates : (ws.states m).2.bare = ws.bare := bare_renumber ws m
  unfold SwitchTable.render
  dsimp only
  split
  case h_1 heq =>
    rw [heq] at hwritten
    exact hwritten.trans hstates
  case h_2 heq =>
    rw [heq] at hwritten
    exact hwritten.trans hstates

/-! ## Consistency of runs -/

theorem consistent_perform (ws : Workspace) (operation : Operation) (h : ws.Consistent) :
    (ws.perform operation).Consistent := by
  cases operation with
  | make e => exact consistent_newEntity ws e h
  | start head => exact consistent_newMachine ws head h
  | build data source validate => exact consistent_build ws data source validate h
  | add m things => exact consistent_add ws m things h
  | edit r change => exact consistent_modifyEntity ws r _ change.kind_apply h
  | editHead m change => exact consistent_editHead ws m change h
  | setMessage m message => exact consistent_setMessage ws m message h
  | report m d => exact consistent_of_bare_eq (bare_report ws m d) h
  | renumber m => exact consistent_of_bare_eq (bare_renumber ws m) h
  | assertValid m => exact consistent_of_bare_eq (bare_assertValid ws m) h
  | resolve m eventId raw => exact consistent_of_bare_eq (bare_arcsForEvent ws m eventId raw) h
  | extract m specifiers => exact consistent_extract ws m specifiers h
  | render m => exact consistent_of_bare_eq (bare_render ws m) h
  | setJournal journal => exact h

theorem Reachable.consistent {ws : Workspace} (h : ws.Reachable) : ws.Consistent := by
  obtain ⟨journal, operations, rfl⟩ := h
  have hrun : ∀ ws : Workspace, ws.Consistent → (List.foldl perform ws operations).Consistent := by
    induction operations with
    | nil => exact fun _ h => h
    | cons operation rest ih => exact fun ws h => ih _ (consistent_perform ws operation h)
  exact hrun _ (consistent_empty journal)

/-! ## Workspaces with one machine -/

/-- The operations that start a machine and add new entities to it. -/
def filling (id : String) (entities : List Entity) : List Operation :=
  .start { id := some id } :: entities.map .make ++
    [.add ⟨0⟩ ((List.range entities.length).map fun i => .entity ⟨i + 1⟩)]

/-- A workspace with one machine, to which these entities were added. -/
def filled (id : String) (entities : List Entity) : Workspace := (filling id entities).foldl perform {}

theorem reachable_filled (id : String) (entities : List Entity) : (filled id entities).Reachable :=
  ⟨{}, filling id entities, rfl⟩

end Workspace

end StateMachine
