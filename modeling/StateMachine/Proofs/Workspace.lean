import Mathlib.Data.List.Nodup
import StateMachine.Workspace

/-!
# Reading a workspace after writing to it

What each primitive of a workspace changes, and that it leaves the rest alone.
-/

namespace StateMachine

theorem ok_of_toOption {ε α : Type} {x : Except ε α} {a : α} (h : x.toOption = some a) : x = .ok a := by
  cases x with
  | error fault => cases h
  | ok b => rw [Option.some.inj h]

theorem EntityRef.eq_of_index {a b : EntityRef} (h : a.index = b.index) : a = b := by
  cases a; cases b; simp_all

theorem MachineRef.eq_of_index {a b : MachineRef} (h : a.index = b.index) : a = b := by
  cases a; cases b; simp_all

namespace Workspace

/-! ## Entities -/

theorem entity_eq (ws : Workspace) (r : EntityRef) : ws.entity r = (ws.entities[r.index]?).getD default :=
  List.getD_eq_getElem?_getD

@[simp]
theorem length_modifyEntity (ws : Workspace) (r : EntityRef) (f : Entity → Entity) :
    (ws.modifyEntity r f).entities.length = ws.entities.length :=
  List.length_modify _ _ _

theorem entity_modifyEntity_self (ws : Workspace) (r : EntityRef) (f : Entity → Entity)
    (h : r.index < ws.entities.length) : (ws.modifyEntity r f).entity r = f (ws.entity r) := by
  rw [entity_eq, entity_eq, modifyEntity, List.getElem?_modify]
  simp [h]

theorem entity_modifyEntity_ne (ws : Workspace) (r s : EntityRef) (f : Entity → Entity) (h : s ≠ r) :
    (ws.modifyEntity r f).entity s = ws.entity s := by
  have hne : r.index ≠ s.index := fun e => h (EntityRef.eq_of_index e.symm)
  rw [entity_eq, entity_eq, modifyEntity, List.getElem?_modify]
  simp [hne]

/-- A property that a change keeps holds of all entities afterwards as before. -/
theorem entity_modifyEntity_congr {β : Type} (g : Entity → β) (ws : Workspace) (r s : EntityRef)
    (f : Entity → Entity) (h : ∀ e, g (f e) = g e) : g ((ws.modifyEntity r f).entity s) = g (ws.entity s) := by
  by_cases hs : s = r
  · subst hs
    by_cases hlt : s.index < ws.entities.length
    · rw [entity_modifyEntity_self ws s f hlt, h]
    · rw [entity_eq, entity_eq, List.getElem?_eq_none (by simpa using hlt), List.getElem?_eq_none (by omega)]
  · rw [entity_modifyEntity_ne ws r s f hs]

theorem entity_newEntity_old (ws : Workspace) (e : Entity) (r : EntityRef) (h : r.index < ws.entities.length) :
    (ws.newEntity e).2.entity r = ws.entity r := by
  rw [entity_eq, entity_eq, newEntity, List.getElem?_append_left h]

theorem entity_newEntity_new (ws : Workspace) (e : Entity) :
    (ws.newEntity e).2.entity (ws.newEntity e).1 = e.named := by
  simp [entity_eq, newEntity]

/-- New entities come after all others, and those are left alone. -/
theorem newEntities_eq (ws : Workspace) (es : List Entity) :
    ws.newEntities es = ((List.range' ws.entities.length es.length).map EntityRef.mk,
      { ws with entities := ws.entities ++ es.map Entity.named }) := by
  induction es generalizing ws with
  | nil => simp [newEntities]
  | cons e rest ih =>
    simp only [newEntities, ih]
    simp [newEntity, List.range'_succ]

theorem entity_newEntities_old (ws : Workspace) (es : List Entity) (r : EntityRef)
    (h : r.index < ws.entities.length) : (ws.newEntities es).2.entity r = ws.entity r := by
  rw [newEntities_eq, entity_eq, entity_eq, List.getElem?_append_left h]

theorem map_entity_newEntities (ws : Workspace) (es : List Entity) :
    (ws.newEntities es).1.map (ws.newEntities es).2.entity = es.map Entity.named := by
  rw [newEntities_eq]
  apply List.ext_getElem?
  intro i
  simp only [List.getElem?_map, List.map_map, Function.comp_def]
  by_cases hi : i < es.length
  · simp [hi, entity_eq]
  · simp [hi]

theorem newEntities_fresh (ws : Workspace) (es : List Entity) (r : EntityRef) (h : r ∈ (ws.newEntities es).1) :
    ws.entities.length ≤ r.index ∧ r.index < (ws.newEntities es).2.entities.length := by
  rw [newEntities_eq] at h ⊢
  obtain ⟨i, hi, rfl⟩ := List.mem_map.mp h
  rw [List.mem_range'_1] at hi
  simpa using hi

/-! ## Machines -/

theorem machine_eq (ws : Workspace) (m : MachineRef) : ws.machine m = (ws.machines[m.index]?).getD default :=
  List.getD_eq_getElem?_getD

theorem machine_modifyMachine_self (ws : Workspace) (m : MachineRef) (f : Machine → Machine)
    (h : m.index < ws.machines.length) : (ws.modifyMachine m f).machine m = f (ws.machine m) := by
  rw [machine_eq, machine_eq, modifyMachine, List.getElem?_modify]
  simp [h]

theorem machine_modifyMachine_ne (ws : Workspace) (m n : MachineRef) (f : Machine → Machine) (h : n ≠ m) :
    (ws.modifyMachine m f).machine n = ws.machine n := by
  have hne : m.index ≠ n.index := fun e => h (MachineRef.eq_of_index e.symm)
  rw [machine_eq, machine_eq, modifyMachine, List.getElem?_modify]
  simp [hne]

end Workspace

end StateMachine
