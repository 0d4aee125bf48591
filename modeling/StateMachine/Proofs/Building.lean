import StateMachine.Description
import StateMachine.Proofs.Consistency

/-!
# Building from descriptions

Building starts a machine and then makes and adds one entity after the other, up to the first fault. What every such
step preserves holds in the end.
-/

namespace StateMachine

/-! ## What is read from descriptions -/

namespace Description

/-- An entity that is read belongs to no machine. -/
def Unowned (reading : Except Fault Entity) : Prop := ∀ e, reading = .ok e → e.machine = none

theorem unowned_bind {α : Type} {x : Except Fault α} {f : α → Except Fault Entity} (h : ∀ a, Unowned (f a)) :
    Unowned (x >>= f) := by
  cases x with
  | error fault => exact fun e he => by cases he
  | ok a => exact h a

theorem unowned_bind_entity {x : Except Fault Entity} {f : Entity → Except Fault Entity} (hx : Unowned x)
    (h : ∀ e, e.machine = none → Unowned (f e)) : Unowned (x >>= f) := by
  cases x with
  | error fault => exact fun e he => by cases he
  | ok e => exact h e (hx e rfl)

theorem unowned_ok {e : Entity} (h : e.machine = none) : Unowned (.ok e) := fun _ he => Except.ok.inj he ▸ h

theorem unowned_entity (record : Record) (keys : List String) (id : Option String) :
    Unowned (record.entity keys id) := by
  unfold Record.entity
  cases id with
  | some _ | none =>
    iterate 5 refine unowned_bind fun _ => ?_
    exact unowned_ok rfl

theorem unowned_read (s : Section) (record : Record) : Unowned (s.read record) := by
  cases s with
  | classes => exact unowned_bind_entity (unowned_entity _ _ _) fun _ he => unowned_ok he
  | actions =>
    refine unowned_bind_entity (unowned_entity _ _ _) fun _ he => unowned_bind fun _ => ?_
    exact unowned_ok he
  | states =>
    refine unowned_bind_entity (unowned_entity _ _ _) fun _ he => unowned_bind fun _ => unowned_bind fun _ => ?_
    exact unowned_ok he
  | events =>
    refine unowned_bind_entity (unowned_entity _ _ _) fun _ he => unowned_bind fun _ => ?_
    exact unowned_ok he
  | arcs =>
    iterate 5 refine unowned_bind fun _ => ?_
    refine unowned_bind_entity (unowned_entity _ _ _) fun _ he => unowned_bind fun _ => ?_
    exact unowned_ok he

/-! ## Step by step -/

section
variable {P : Workspace → Prop} (m : MachineRef)
  (hstep : ∀ (ws : Workspace) (e : Entity), e.machine = none → P ws →
    P ((ws.newEntity e).2.add m [.entity (ws.newEntity e).1]).1)
include hstep

theorem addRecords_preserves (ws : Workspace) (s : Section) (source : String) (index : Nat) (records : List Value)
    (h : P ws) : P (addRecords ws m s source index records).1 := by
  induction records generalizing ws index with
  | nil => exact h
  | cons v rest ih =>
    rw [addRecords]
    split
    case h_1 => exact h
    case h_2 e he =>
      have hnone : e.machine = none := unowned_bind (fun record => unowned_read s record) e he
      have hadded := hstep ws e hnone h
      dsimp only
      split
      case h_1 heq => rwa [heq] at hadded
      case h_2 heq =>
        rw [heq] at hadded
        exact ih _ _ hadded

theorem addSections_preserves (ws : Workspace) (data : Dict) (source : String) (sections : List Section) (h : P ws) :
    P (addSections ws m data source sections).1 := by
  induction sections generalizing ws with
  | nil => exact h
  | cons s rest ih =>
    rw [addSections]
    split
    case h_1 => exact h
    case h_2 items _ =>
      have hadded := addRecords_preserves m hstep ws s source 0 items h
      split
      case h_1 heq => rwa [heq] at hadded
      case h_2 heq =>
        rw [heq] at hadded
        exact ih _ hadded

end

/-- No machine is made, or it is filled; then it may be checked. -/
theorem build_stages (ws : Workspace) (data : Dict) (source : String) (validate : Bool) :
    (∃ fault, build ws data source validate = (ws, .error fault)) ∨
    ∃ head, ws.newMachine head = (ws.founding head, .ok ⟨ws.machines.length⟩) ∧
      let filled := (addSections (ws.founding head) ⟨ws.machines.length⟩ data source Section.all).1
      (build ws data source validate).1 = filled ∨
        (build ws data source validate).1 = (filled.assertValid ⟨ws.machines.length⟩).1 := by
  unfold build
  split
  case h_1 fault _ => exact Or.inl ⟨fault, rfl⟩
  case h_2 head _ =>
    rcases Workspace.newMachine_cases ws head with ⟨fault, hmade, _⟩ | ⟨_, _, hmade⟩
    · rw [hmade]
      exact Or.inl ⟨fault, rfl⟩
    · refine Or.inr ⟨head, hmade, ?_⟩
      rw [hmade]
      dsimp only
      split
      case h_1 heq =>
        rw [heq]
        exact Or.inl rfl
      case h_2 filled heq =>
        rw [heq]
        split
        · right
          split
          case h_1 heq => rw [heq]
          case h_2 heq => rw [heq]
        · exact Or.inl rfl

/-- Checking the machine at the end only numbers and reports. -/
theorem build_cases (ws : Workspace) (data : Dict) (source : String) (validate : Bool) :
    (∃ fault, build ws data source validate = (ws, .error fault)) ∨
    ∃ head, ws.newMachine head = (ws.founding head, .ok ⟨ws.machines.length⟩) ∧
      (build ws data source validate).1.bare =
        (addSections (ws.founding head) ⟨ws.machines.length⟩ data source Section.all).1.bare := by
  rcases build_stages ws data source validate with hfailed | ⟨head, hmade, hfilled | hchecked⟩
  · exact Or.inl hfailed
  · exact Or.inr ⟨head, hmade, by rw [hfilled]⟩
  · exact Or.inr ⟨head, hmade, by rw [hchecked, Workspace.bare_assertValid]⟩

end Description

end StateMachine
