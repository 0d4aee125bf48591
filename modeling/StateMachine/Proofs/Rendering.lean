import StateMachine.Proofs.Inheriting
import StateMachine.Proofs.Operations
import StateMachine.Proofs.Renumbering

/-!
# The parts of a switch table

A switch table is its opening, one function for each event and its closing. The states are numbered anew for each
function, but the functions do not show the numbers: each is what it would be on its own.
-/

namespace StateMachine.SwitchTable

open Workspace

/-! ## What a case reads -/

section
variable {ws ws' : Workspace} {arc arc' : Entity} {f t : EntityRef}

theorem actions_congr (hown : handlers ws' arc' = handlers ws arc)
    (hleaving : ws'.exitHandlersOf f = ws.exitHandlersOf f)
    (hentering : ws'.entryHandlersOf t = ws.entryHandlersOf t) : actions ws' arc' f t = actions ws arc f t := by
  rw [actions, actions, hown, hleaving, hentering]

/-- A case reads the endpoints of its arc, their constants and the code of its actions. -/
theorem caseLines_congr (hends : ws.endpoints? arc = some (f, t)) (hends' : ws'.endpoints? arc' = some (f, t))
    (hactions : actions ws' arc' f t = actions ws arc f t)
    (horigin : (ws'.entity f).enumId = (ws.entity f).enumId) (htarget : (ws'.entity t).enumId = (ws.entity t).enumId)
    (hcode : ∀ found, actions ws arc f t = .ok found → ∀ a ∈ found, (ws'.entity a).code = (ws.entity a).code) :
    caseLines ws' arc' = caseLines ws arc := by
  simp only [caseLines, hends, hends', hactions, constant, horigin, htarget]
  cases hfound : actions ws arc f t with
  | error fault => rfl
  | ok found =>
    have hlines : found.map (fun a => actionLine (ws'.entity a)) = found.map fun a => actionLine (ws.entity a) :=
      List.map_congr_left fun a ha => by rw [actionLine, actionLine, hcode found hfound a ha]
    exact congrArg (fun lines => Except.ok (_ :: lines ++ _)) hlines

end

/-! ## Numbers are not seen -/

theorem code_unnumbered (e : Entity) : e.unnumbered.code = e.code := by
  cases hd : e.detail <;> simp [Entity.unnumbered, Entity.withNumber, Entity.code, hd]

section
variable {ws ws' : Workspace} (h : ws'.bare = ws.bare)
include h

theorem findFrom_of_bare_eq {e e' : Entity} (he : e'.machine = e.machine) (kind : Kind) (id : Option String) :
    ws'.findFrom e' kind id = ws.findFrom e kind id := by
  have hfind : ∀ m, ws'.find m kind id = ws.find m kind id := fun m => by rw [← find_bare, h, find_bare]
  simp only [findFrom, he, hfind]

theorem actionsOf_of_bare_eq (r : EntityRef) (ids : List String) : ws'.actionsOf r ids = ws.actionsOf r ids := by
  have hmachine : (ws'.entity r).machine = (ws.entity r).machine := by
    rw [← Entity.machine_unnumbered, unnumbered_of_bare_eq h, Entity.machine_unnumbered]
  exact findAll_congr .action ids fun id _ => findFrom_of_bare_eq h hmachine .action (some id)

theorem links_of_bare_eq (r : EntityRef) : (ws'.entity r).links = (ws.entity r).links := by
  rw [← Entity.links_unnumbered, unnumbered_of_bare_eq h, Entity.links_unnumbered]

theorem enumId_of_bare_eq (r : EntityRef) : (ws'.entity r).enumId = (ws.entity r).enumId := by
  rw [← Entity.enumId_unnumbered, unnumbered_of_bare_eq h, Entity.enumId_unnumbered]

theorem caseLines_of_bare_eq {arc arc' : Entity} (hmachine : arc'.machine = arc.machine)
    (htransition : arc'.transition = arc.transition) : caseLines ws' arc' = caseLines ws arc := by
  have hends : ws'.endpoints? arc' = ws.endpoints? arc := by
    simp only [endpoints?, htransition, findFrom_of_bare_eq h hmachine]
  cases hfound : ws.endpoints? arc with
  | none => simp only [caseLines, hends, hfound]
  | some ends =>
    obtain ⟨f, t⟩ := ends
    refine caseLines_congr hfound (hends.trans hfound) (actions_congr ?_ ?_ ?_) (enumId_of_bare_eq h f)
      (enumId_of_bare_eq h t) fun _ _ a _ => ?_
    · rw [handlers, handlers, htransition]
      exact findAll_congr .action _ fun id _ => findFrom_of_bare_eq h hmachine .action (some id)
    · rw [exitHandlersOf, actionsOf_of_bare_eq h, exitHandlersOf]
      exact congrArg _ (congrArg Links.exitIds (links_of_bare_eq h f))
    · rw [entryHandlersOf, actionsOf_of_bare_eq h, entryHandlersOf]
      exact congrArg _ (congrArg Links.entryIds (links_of_bare_eq h t))
    · rw [← code_unnumbered, unnumbered_of_bare_eq h, code_unnumbered]

theorem cases_of_bare_eq (arcs : List FiringArc) : cases ws' arcs = cases ws arcs := by
  have hlines : (fun a => caseLines ws' (ws'.firing a)) = fun a => caseLines ws (ws.firing a) := by
    funext a
    cases a with
    | declared r =>
      refine caseLines_of_bare_eq h ?_ ?_
      · rw [firing, ← Entity.machine_unnumbered, unnumbered_of_bare_eq h, Entity.machine_unnumbered, firing]
      · rw [firing, ← Entity.transition_unnumbered, unnumbered_of_bare_eq h, Entity.transition_unnumbered, firing]
    | derived e => exact caseLines_of_bare_eq h rfl rfl
  rw [cases, hlines, cases]

end

/-! ## Functions on their own -/

section
variable {ε α β : Type} {f g : α → Except ε β}

theorem mapM_congr {xs : List α} (h : ∀ x ∈ xs, f x = g x) : xs.mapM f = xs.mapM g := by
  induction xs with
  | nil => rfl
  | cons x rest ih =>
    obtain ⟨hx, hrest⟩ := List.forall_mem_cons.mp h
    rw [List.mapM_cons, List.mapM_cons, hx, ih hrest]

theorem mapM_eq_ok {value : α → β} {xs : List α} (h : ∀ x ∈ xs, f x = .ok (value x)) :
    xs.mapM f = .ok (xs.map value) :=
  (mapM_congr h).trans List.mapM_pure

end

/-- The function of an event. -/
def functionOf (ws : Workspace) (m : MachineRef) (event : EntityRef) : Except Fault (List String) :=
  (cases ws (ws.arcsForEvent m (ws.entity event).id false).1).map (functionLines (ws.entity event).id)

/-- Earlier functions leave no trace in later ones. -/
theorem functions_eq {ws ws' : Workspace} {m : MachineRef} (h : Renumbered ws ws' m) (events : List EntityRef) :
    (functions ws' m events).2 = (events.mapM (functionOf ws m)).map List.flatten := by
  induction events generalizing ws' with
  | nil => rfl
  | cons event rest ih =>
    have hafter := h.trans (renumbered_arcsForEvent ws' m (ws'.entity event).id false)
    have hrest := ih hafter
    have hid : (ws'.entity event).id = (ws.entity event).id := id_entity_of_bare_eq h.bare_eq event
    have hlast : ((functions (ws'.arcsForEvent m (ws'.entity event).id false).2 m rest).1.entity event).id =
        (ws.entity event).id := by
      rw [id_entity_of_bare_eq (bare_functions _ m rest), id_entity_of_bare_eq hafter.bare_eq]
    have hcases : cases (ws'.arcsForEvent m (ws'.entity event).id false).2
        (ws'.arcsForEvent m (ws'.entity event).id false).1 =
          cases ws (ws.arcsForEvent m (ws.entity event).id false).1 := by
      rw [cases_of_bare_eq hafter.bare_eq, hid, h.arcsForEvent_eq]
    rw [functions, List.mapM_cons, functionOf]
    dsimp only
    rw [hcases]
    cases hwritten : cases ws (ws.arcsForEvent m (ws.entity event).id false).1 with
    | error fault => rfl
    | ok lines =>
      generalize functions (ws'.arcsForEvent m (ws'.entity event).id false).2 m rest = written at hrest hlast
      obtain ⟨after, others⟩ := written
      dsimp only at hrest hlast ⊢
      subst hrest
      cases hothers : rest.mapM (functionOf ws m) with
      | error fault => rfl
      | ok texts =>
        simp only [Except.map, hlast]
        rfl

/-! ## Whole switch tables -/

/-- What comes before the functions. -/
def opening (ws : Workspace) (m : MachineRef) : List String :=
  let head := (ws.machine m).head
  s!"/* {head.message} */" :: (stated? head.preamble).toList.map withoutFinalBreaks ++ [""] ++
    enumeration (ws.states m).2 (ws.states m).1

/-- What comes after the functions. -/
def closing (ws : Workspace) (m : MachineRef) : List String :=
  (stated? (ws.machine m).head.postamble).toList.map withoutFinalBreaks

theorem render_eq (ws : Workspace) (m : MachineRef) : (render ws m).2 =
    ((ws.members m .event).mapM (functionOf ws m)).map fun functions =>
      joinLines (opening ws m ++ functions.flatten ++ closing ws m) := by
  have hnumbered : Renumbered ws (ws.states m).2 m := renumbered_renumber ws m
  have hwritten := functions_eq hnumbered ((ws.states m).2.members m .event)
  rw [members_of_bare_eq hnumbered.bare_eq] at hwritten
  unfold render
  dsimp only
  rw [members_of_bare_eq hnumbered.bare_eq]
  generalize functions (ws.states m).2 m (ws.members m .event) = written at hwritten ⊢
  obtain ⟨after, lines⟩ := written
  dsimp only at hwritten
  subst hwritten
  cases (ws.members m .event).mapM (functionOf ws m) <;> rfl

end StateMachine.SwitchTable
