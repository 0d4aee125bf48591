import StateMachine.Check
import StateMachine.Extraction
import StateMachine.Proofs.Workspace

/-!
# What numbers, warnings and the journal do not touch

A workspace without the numbers of its states, the warnings of its machines and its journal is bare. Enumerating,
checking and resolving change nothing else, and what lookups and checks answer can be read off the bare workspace.
-/

namespace StateMachine

/-! ## Entities without a number -/

/-- The entity without its number. -/
def Entity.unnumbered (e : Entity) : Entity := e.withNumber none

namespace Entity

variable (e : Entity) (n : Option Int)

theorem withNumber_eq : ∃ d, e.withNumber n = { e with detail := d } := by
  unfold withNumber
  split
  · exact ⟨_, rfl⟩
  · exact ⟨e.detail, rfl⟩

@[simp]
theorem kind_withNumber : (e.withNumber n).kind = e.kind := by
  unfold withNumber kind
  split
  case h_1 h => rw [h]; rfl
  case h_2 => rfl

@[simp]
theorem transition_withNumber : (e.withNumber n).transition = e.transition := by
  unfold withNumber
  split
  case h_1 h => simp only [transition, h]
  case h_2 => rfl

@[simp]
theorem unnumbered_withNumber : (e.withNumber n).unnumbered = e.unnumbered := by
  cases hd : e.detail <;> simp [unnumbered, withNumber, hd]

@[simp]
theorem id_unnumbered : e.unnumbered.id = e.id := by
  obtain ⟨d, h⟩ := e.withNumber_eq none
  rw [unnumbered, h]

@[simp]
theorem machine_unnumbered : e.unnumbered.machine = e.machine := by
  obtain ⟨d, h⟩ := e.withNumber_eq none
  rw [unnumbered, h]

@[simp]
theorem location_unnumbered : e.unnumbered.location = e.location := by
  obtain ⟨d, h⟩ := e.withNumber_eq none
  rw [unnumbered, h]

@[simp]
theorem enumId_unnumbered : e.unnumbered.enumId = e.enumId := by
  obtain ⟨d, h⟩ := e.withNumber_eq none
  rw [unnumbered, h]

@[simp]
theorem kind_unnumbered : e.unnumbered.kind = e.kind := e.kind_withNumber none

@[simp]
theorem transition_unnumbered : e.unnumbered.transition = e.transition := e.transition_withNumber none

@[simp]
theorem leavesAll_unnumbered : e.unnumbered.leavesAll = e.leavesAll := by
  rw [leavesAll, transition_unnumbered, leavesAll]

@[simp]
theorem isOn_unnumbered (eventId : String) : e.unnumbered.isOn eventId = e.isOn eventId := by
  rw [isOn, transition_unnumbered, isOn]

@[simp]
theorem isAllState_unnumbered : e.unnumbered.isAllState = e.isAllState := by
  rw [isAllState, id_unnumbered, isAllState]

/-- Only states have numbers. -/
theorem unnumbered_of_arc (h : e.kind = .arc) : e.unnumbered = e := by
  unfold unnumbered withNumber
  split
  case h_1 hd => simp [kind, hd, Detail.kind] at h
  case h_2 => rfl

@[simp]
theorem derivedFor_unnumbered (s : Entity) : e.unnumbered.derivedFor s.unnumbered = e.derivedFor s := by
  simp only [derivedFor, transition_unnumbered, id_unnumbered]
  obtain ⟨d, h⟩ := e.withNumber_eq none
  rw [unnumbered, h]

end Entity

/-! ## The bare workspace -/

/-- The machine without its warnings. -/
def Machine.unwarned (m : Machine) : Machine := { m with warnings := [] }

namespace Workspace

/-- The workspace without numbers, warnings and journal. -/
def bare (ws : Workspace) : Workspace :=
  { entities := ws.entities.map Entity.unnumbered, machines := ws.machines.map Machine.unwarned }

section
variable (ws : Workspace)

@[simp]
theorem entity_bare (r : EntityRef) : ws.bare.entity r = (ws.entity r).unnumbered := by
  simp only [entity_eq, bare, List.getElem?_map]
  cases ws.entities[r.index]? <;> rfl

@[simp]
theorem machine_bare (m : MachineRef) : ws.bare.machine m = (ws.machine m).unwarned := by
  simp only [machine_eq, bare, List.getElem?_map]
  cases ws.machines[m.index]? <;> rfl

@[simp]
theorem length_entities_bare : ws.bare.entities.length = ws.entities.length := List.length_map _

@[simp]
theorem length_machines_bare : ws.bare.machines.length = ws.machines.length := List.length_map _

@[simp]
theorem members_bare (m : MachineRef) (kind : Kind) : ws.bare.members m kind = ws.members m kind := by
  rw [members, machine_bare, members]; rfl

@[simp]
theorem kindOf_bare : ws.bare.kindOf = ws.kindOf := by
  funext r
  rw [kindOf, entity_bare, Entity.kind_unnumbered, kindOf]

/-! ### Looking up -/

@[simp]
theorem find_bare (m : MachineRef) (kind : Kind) (id : Option String) :
    ws.bare.find m kind id = ws.find m kind id := by
  rw [find, lookup, machine_bare, kindOf_bare]; rfl

@[simp]
theorem findFrom_bare (e : Entity) (kind : Kind) (id : Option String) :
    ws.bare.findFrom e kind id = ws.findFrom e kind id := by
  simp only [findFrom, find_bare]

@[simp]
theorem findFrom_unnumbered (e : Entity) (kind : Kind) (id : Option String) :
    ws.findFrom e.unnumbered kind id = ws.findFrom e kind id := by
  simp only [findFrom, Entity.machine_unnumbered]

@[simp]
theorem endpoints?_bare (e : Entity) : ws.bare.endpoints? e = ws.endpoints? e := by
  simp only [endpoints?, findFrom_bare]

@[simp]
theorem endpoints?_unnumbered (e : Entity) : ws.endpoints? e.unnumbered = ws.endpoints? e := by
  simp only [endpoints?, findFrom_unnumbered, Entity.transition_unnumbered]

/-! ### Checking -/

@[simp]
theorem referenceError?_bare (m : MachineRef) (r : EntityRef) (role : Role) :
    ws.bare.referenceError? m (ws.bare.entity r) role = ws.referenceError? m (ws.entity r) role := by
  simp only [referenceError?, entity_bare, machine_bare, kindOf_bare, arcError, Entity.whereText,
    Entity.transition_unnumbered, Entity.id_unnumbered, Entity.location_unnumbered]
  rfl

@[simp]
theorem exitKey?_bare (m : MachineRef) (r : EntityRef) : ws.bare.exitKey? m r = ws.exitKey? m r := by
  rw [exitKey?, referenceError?_bare, entity_bare, Entity.transition_unnumbered]
  rfl

@[simp]
theorem errors_bare (m : MachineRef) : ws.bare.errors m = ws.errors m := by
  have hrefs : ws.bare.referenceErrors m = ws.referenceErrors m := by
    funext r
    simp only [referenceErrors, referenceError?_bare]
  have hcollisions : ws.bare.collisions m = ws.collisions m := by
    simp only [collisions, members_bare, exitKey?_bare]
  simp only [errors, members_bare, hrefs, hcollisions, collisionError, entity_bare, Entity.id_unnumbered]

@[simp]
theorem registered_bare (m : MachineRef) : ws.bare.registered m = ws.registered m := by
  rw [registered, machine_bare, registered]; rfl

@[simp]
theorem examine_bare (m : MachineRef) : ws.bare.examine m = ws.examine m := by
  simp only [examine, sharedConstants, sharedConstantWarning, Entity.label, members_bare, registered_bare, errors_bare,
    machine_bare, entity_bare, Entity.id_unnumbered, Entity.kind_unnumbered, Entity.enumId_unnumbered]
  rfl

/-! ### Resolving -/

@[simp]
theorem arcKey_unnumbered (e : Entity) : arcKey e.unnumbered = arcKey e := by
  rw [arcKey, Entity.transition_unnumbered, arcKey]

@[simp]
theorem arcsOn_bare (m : MachineRef) (eventId : String) : ws.bare.arcsOn m eventId = ws.arcsOn m eventId := by
  simp only [arcsOn, members_bare, entity_bare, Entity.isOn_unnumbered]

@[simp]
theorem wildcardsOn_bare (m : MachineRef) (eventId : String) :
    ws.bare.wildcardsOn m eventId = ws.wildcardsOn m eventId := by
  simp only [wildcardsOn, arcsOn_bare, entity_bare, Entity.leavesAll_unnumbered]

@[simp]
theorem keyedArcs_bare (arcs : List EntityRef) : ws.bare.keyedArcs arcs = ws.keyedArcs arcs := by
  simp only [keyedArcs, entity_bare, arcKey_unnumbered]

@[simp]
theorem endpoints?_firing_bare (a : FiringArc) :
    ws.bare.endpoints? (ws.bare.firing a) = ws.endpoints? (ws.firing a) := by
  cases a with
  | declared r => rw [firing, entity_bare, endpoints?_unnumbered, endpoints?_bare, firing]
  | derived e => rw [firing, endpoints?_bare, firing]

theorem statesOf_firing_bare (a : FiringArc) :
    ws.bare.statesOf (ws.bare.firing a) = ws.statesOf (ws.firing a) := by
  cases a with
  | declared r =>
    simp only [firing, statesOf, entity_bare, findFrom_unnumbered, findFrom_bare, Entity.transition_unnumbered]
  | derived e => simp only [firing, statesOf, findFrom_bare]

@[simp]
theorem touchedStates_bare (arcs : List FiringArc) : ws.bare.touchedStates arcs = ws.touchedStates arcs := by
  simp only [touchedStates, statesOf_firing_bare, entity_bare, Entity.isAllState_unnumbered]

end

/-! ## What changes nothing but numbers and warnings -/

theorem bare_modifyEntity (ws : Workspace) (r : EntityRef) (f : Entity → Entity)
    (h : ∀ e, (f e).unnumbered = e.unnumbered) : (ws.modifyEntity r f).bare = ws.bare := by
  have : (ws.entities.modify r.index f).map Entity.unnumbered = ws.entities.map Entity.unnumbered := by
    apply List.ext_getElem?
    intro i
    rw [List.getElem?_map, List.getElem?_modify, List.getElem?_map]
    cases ws.entities[i]? with
    | none => rfl
    | some e => by_cases hi : r.index = i <;> simp [hi, h]
  simp only [bare, modifyEntity, this]

theorem bare_modifyMachine (ws : Workspace) (m : MachineRef) (f : Machine → Machine)
    (h : ∀ x, (f x).unwarned = x.unwarned) : (ws.modifyMachine m f).bare = ws.bare := by
  have : (ws.machines.modify m.index f).map Machine.unwarned = ws.machines.map Machine.unwarned := by
    apply List.ext_getElem?
    intro i
    rw [List.getElem?_map, List.getElem?_modify, List.getElem?_map]
    cases ws.machines[i]? with
    | none => rfl
    | some x => by_cases hi : m.index = i <;> simp [hi, h]
  simp only [bare, modifyMachine, this]

@[simp]
theorem bare_renumber (ws : Workspace) (m : MachineRef) : (ws.renumber m).bare = ws.bare := by
  have hnumber : ∀ (ws : Workspace) (r : EntityRef) (n : Option Int),
      (ws.modifyEntity r fun e => e.withNumber n).bare = ws.bare :=
    fun ws r n => bare_modifyEntity ws r _ fun e => e.unnumbered_withNumber n
  have hfold : ∀ (numbered : List (EntityRef × Nat)) (ws : Workspace),
      (numbered.foldl (fun ws x => ws.modifyEntity x.1 fun e => e.withNumber (some (x.2 : Int))) ws).bare =
        ws.bare := by
    intro numbered
    induction numbered with
    | nil => exact fun _ => rfl
    | cons x rest ih => exact fun ws => (ih _).trans (hnumber ws x.1 _)
  rw [renumber, hnumber]
  exact hfold _ ws

@[simp]
theorem bare_report (ws : Workspace) (m : MachineRef) (d : Diagnostic) : (ws.report m d).bare = ws.bare :=
  bare_modifyMachine ws m _ fun _ => rfl

@[simp]
theorem bare_reportAll (ws : Workspace) (m : MachineRef) (ds : List Diagnostic) :
    (ws.reportAll m ds).bare = ws.bare := by
  induction ds generalizing ws with
  | nil => rfl
  | cons d ds ih => exact (ih _).trans (bare_report ws m d)

@[simp]
theorem bare_reportIfEmpty (ws : Workspace) (m : MachineRef) (empty : Bool) (d : Diagnostic) :
    (ws.reportIfEmpty m empty d).bare = ws.bare := by
  unfold reportIfEmpty
  split
  · exact bare_report ws m d
  · rfl

@[simp]
theorem bare_arcsForEvent (ws : Workspace) (m : MachineRef) (eventId : String) (raw : Bool) :
    (ws.arcsForEvent m eventId raw).2.bare = ws.bare := by
  rw [arcsForEvent]
  exact (bare_reportAll _ m _).trans (bare_renumber ws m)

@[simp]
theorem bare_check (ws : Workspace) (m : MachineRef) : (ws.check m).2.bare = ws.bare :=
  bare_renumber ws m

/-- A check says what is to be said before the states are numbered anew. -/
theorem check_eq_examine (ws : Workspace) (m : MachineRef) : (ws.check m).1 = ws.examine m := by
  rw [check, ← examine_bare, bare_renumber, examine_bare]

/-- Whether it fails or not, an assertion reports the warnings of the check. -/
theorem fst_assertValid (ws : Workspace) (m : MachineRef) :
    (ws.assertValid m).1 = (ws.check m).2.reportAll m (ws.check m).1.warnings := by
  unfold assertValid
  dsimp only
  split <;> rfl

@[simp]
theorem bare_assertValid (ws : Workspace) (m : MachineRef) : (ws.assertValid m).1.bare = ws.bare := by
  rw [fst_assertValid, bare_reportAll, bare_check]

/-! ## The same up to numbers and warnings -/

section
variable {ws ws' : Workspace} (h : ws'.bare = ws.bare)
include h

theorem length_machines_of_bare_eq : ws'.machines.length = ws.machines.length := by
  rw [← length_machines_bare, h, length_machines_bare]

theorem members_of_bare_eq (m : MachineRef) (kind : Kind) : ws'.members m kind = ws.members m kind := by
  rw [← members_bare, h, members_bare]

theorem kindOf_of_bare_eq : ws'.kindOf = ws.kindOf := by
  rw [← kindOf_bare, h, kindOf_bare]

theorem length_entities_of_bare_eq : ws'.entities.length = ws.entities.length := by
  rw [← length_entities_bare, h, length_entities_bare]

theorem unnumbered_of_bare_eq (r : EntityRef) : (ws'.entity r).unnumbered = (ws.entity r).unnumbered := by
  rw [← entity_bare, h, entity_bare]

theorem id_entity_of_bare_eq (r : EntityRef) : (ws'.entity r).id = (ws.entity r).id := by
  rw [← Entity.id_unnumbered, unnumbered_of_bare_eq h, Entity.id_unnumbered]

theorem unwarned_of_bare_eq (m : MachineRef) : (ws'.machine m).unwarned = (ws.machine m).unwarned := by
  rw [← machine_bare, h, machine_bare]

theorem head_of_bare_eq (m : MachineRef) : (ws'.machine m).head = (ws.machine m).head := by
  have heq := congrArg Machine.head (unwarned_of_bare_eq h m)
  exact heq

theorem allState_of_bare_eq (m : MachineRef) : (ws'.machine m).allState = (ws.machine m).allState := by
  have heq := congrArg Machine.allState (unwarned_of_bare_eq h m)
  exact heq

end

end Workspace

end StateMachine
