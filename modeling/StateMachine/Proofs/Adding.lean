import Mathlib.Tactic.Tauto
import StateMachine.Proofs.Assoc
import StateMachine.Proofs.Workspace

/-!
# Adding entities

An addition is refused and changes nothing, or it takes the entity over. A list of additions stops at the first one
that is refused.
-/

namespace StateMachine

/-- The machine with one more entity, registered under its id. -/
def Machine.enroll (x : Machine) (id : String) (kind : Kind) (r : EntityRef) : Machine :=
  { x with registry := { x.registry with entries := x.registry.entries ++ [(id, r)] } }.join kind r

namespace Workspace

/-! ## One addition -/

/-- Why a machine refuses a thing, if it does. -/
def refusal? (ws : Workspace) (m : MachineRef) : Candidate → Option Fault
  | .foreign typeName => some (.notAddable typeName)
  | .entity r =>
    let e := ws.entity r
    let registry := (ws.machine m).registry
    if !Machine.holds e.kind then some (.notAddable "Entity")
    else
      match registry.find? e.id with
      | some held =>
        some (.duplicateIdentifier e.id (ws.kindOf held).name (ws.kindOf r).name registry.reserved)
      | none =>
        if registry.reserved = some e.id then
          some (.duplicateIdentifier e.id "machine" (ws.kindOf r).name registry.reserved)
        else none

/-- The workspace after a machine has taken an entity over. -/
def taking (ws : Workspace) (m : MachineRef) (r : EntityRef) : Workspace :=
  let e := ws.entity r
  ((ws.modifyMachine m fun x => x.enroll e.id e.kind r).modifyEntity r
    fun e => { e with machine := some m }).log .debug s!"Added {e.label}"

theorem modifyMachine_congr (ws : Workspace) (m : MachineRef) (f g : Machine → Machine)
    (h : f (ws.machine m) = g (ws.machine m)) : ws.modifyMachine m f = ws.modifyMachine m g := by
  have : ws.machines.modify m.index f = ws.machines.modify m.index g := by
    apply List.ext_getElem?
    intro i
    rw [List.getElem?_modify, List.getElem?_modify]
    by_cases hi : m.index = i
    · rw [machine_eq, hi] at h
      cases hx : ws.machines[i]? <;> simp_all
    · simp [hi]
  simp only [modifyMachine, this]

theorem modifyMachine_modifyMachine (ws : Workspace) (m : MachineRef) (f g : Machine → Machine) :
    (ws.modifyMachine m f).modifyMachine m g = ws.modifyMachine m (g ∘ f) := by
  simp only [modifyMachine, List.modify_modify_eq]

theorem modifyEntity_modifyMachine (ws : Workspace) (m : MachineRef) (r : EntityRef) (f : Machine → Machine)
    (g : Entity → Entity) :
    (ws.modifyMachine m f).modifyEntity r g = (ws.modifyEntity r g).modifyMachine m f := rfl

theorem addOne_refused (ws : Workspace) (m : MachineRef) (c : Candidate) (fault : Fault)
    (h : ws.refusal? m c = some fault) : ws.addOne m c = (ws, .error fault) := by
  cases c with
  | foreign typeName =>
    simp only [refusal?, Option.some.injEq] at h
    rw [addOne, h]
  | entity r =>
    simp only [refusal?] at h
    simp only [addOne, Registry.register]
    split at h
    case isTrue hkind =>
      rw [if_pos hkind, ← Option.some.inj h]
    case isFalse hkind =>
      rw [if_neg hkind]
      cases hfound : (ws.machine m).registry.find? (ws.entity r).id with
      | some held =>
        rw [hfound] at h
        rw [← Option.some.inj h]
      | none =>
        rw [hfound] at h
        dsimp only at h ⊢
        split at h
        case isTrue hreserved => simp only [hreserved, if_true, ← Option.some.inj h]
        case isFalse => cases h

theorem addOne_taken (ws : Workspace) (m : MachineRef) (r : EntityRef) (h : ws.refusal? m (.entity r) = none) :
    ws.addOne m (.entity r) = (ws.taking m r, .ok ()) := by
  simp only [refusal?] at h
  split at h
  case isTrue => cases h
  case isFalse hkind =>
    split at h
    case h_1 => cases h
    case h_2 hfree =>
      split at h
      case isTrue => cases h
      case isFalse hreserved =>
        simp only [addOne, Registry.register, if_neg hkind, hfree, if_neg hreserved, taking]
        refine congrArg (fun ws' : Workspace => (ws'.log _ _, Except.ok ())) ?_
        simp only [modifyEntity_modifyMachine, modifyMachine_modifyMachine]
        exact modifyMachine_congr _ m _ _ rfl

/-! ## What a machine takes -/

/-- The ids that a machine has given out. -/
def takenIds (ws : Workspace) (m : MachineRef) : List String := Assoc.keys (ws.machine m).registry.entries

/-- A machine takes an entity of a kind it holds, under an id that is neither given out nor reserved. -/
theorem refusal?_eq_none_iff (ws : Workspace) (m : MachineRef) (r : EntityRef) :
    ws.refusal? m (.entity r) = none ↔ Machine.holds (ws.kindOf r) = true ∧
      (ws.entity r).id ∉ ws.takenIds m ∧ (ws.machine m).registry.reserved ≠ some (ws.entity r).id := by
  rw [takenIds, ← Assoc.lookup_eq_none_iff_keys]
  simp only [refusal?, Registry.find?, kindOf]
  cases Machine.holds (ws.entity r).kind with
  | false => simp
  | true =>
    cases List.lookup (ws.entity r).id (ws.machine m).registry.entries with
    | some held => simp
    | none => simp

/-- An entity of a kind that machines hold is refused because of its id only. -/
theorem refusal?_of_holds (ws : Workspace) (m : MachineRef) (r : EntityRef) (fault : Fault)
    (hkind : Machine.holds (ws.kindOf r) = true) (h : ws.refusal? m (.entity r) = some fault) :
    ((ws.entity r).id ∈ ws.takenIds m ∨ (ws.machine m).registry.reserved = some (ws.entity r).id) ∧
      ∃ existing new, fault = .duplicateIdentifier (ws.entity r).id existing new (ws.machine m).registry.reserved := by
  have hid : (ws.entity r).id ∈ ws.takenIds m ∨ (ws.machine m).registry.reserved = some (ws.entity r).id := by
    by_contra hfree
    rw [not_or] at hfree
    rw [(refusal?_eq_none_iff ws m r).mpr ⟨hkind, hfree⟩] at h
    cases h
  refine ⟨hid, ?_⟩
  rw [kindOf] at hkind
  simp only [refusal?, hkind, Bool.not_true, Bool.false_eq_true, if_false] at h
  split at h
  · exact ⟨_, _, (Option.some.inj h).symm⟩
  · split at h
    · exact ⟨_, _, (Option.some.inj h).symm⟩
    · cases h

theorem known_of_holds (ws : Workspace) (r : EntityRef) (h : Machine.holds (ws.kindOf r) = true) :
    r.index < ws.entities.length := by
  by_contra hlt
  rw [kindOf, entity_eq, List.getElem?_eq_none (by omega)] at h
  cases h

/-! ## Reading after taking one entity over -/

section
variable (ws : Workspace) (m : MachineRef) (r : EntityRef)

@[simp]
theorem length_entities_taking : (ws.taking m r).entities.length = ws.entities.length :=
  length_modifyEntity _ _ _

@[simp]
theorem length_machines_taking : (ws.taking m r).machines.length = ws.machines.length :=
  List.length_modify _ _ _

theorem entity_taking_self (h : r.index < ws.entities.length) :
    (ws.taking m r).entity r = { ws.entity r with machine := some m } :=
  entity_modifyEntity_self (ws.modifyMachine m _) r _ h

theorem entity_taking_ne (s : EntityRef) (h : s ≠ r) : (ws.taking m r).entity s = ws.entity s :=
  entity_modifyEntity_ne (ws.modifyMachine m _) r s _ h

/-- Nothing of an entity but the machine it belongs to depends on who takes what over. -/
theorem entity_taking_congr {β : Type} (g : Entity → β) (h : ∀ e, g { e with machine := some m } = g e)
    (s : EntityRef) : g ((ws.taking m r).entity s) = g (ws.entity s) :=
  entity_modifyEntity_congr g (ws.modifyMachine m _) r s _ h

@[simp]
theorem kindOf_taking : (ws.taking m r).kindOf = ws.kindOf := by
  funext s
  exact entity_taking_congr ws m r Entity.kind (fun _ => rfl) s

@[simp]
theorem id_taking (s : EntityRef) : ((ws.taking m r).entity s).id = (ws.entity s).id :=
  entity_taking_congr ws m r Entity.id (fun _ => rfl) s

theorem machine_taking_self (h : m.index < ws.machines.length) :
    (ws.taking m r).machine m = (ws.machine m).enroll (ws.entity r).id (ws.kindOf r) r :=
  machine_modifyMachine_self ws m _ h

theorem machine_taking_ne (n : MachineRef) (h : n ≠ m) : (ws.taking m r).machine n = ws.machine n :=
  machine_modifyMachine_ne ws m n _ h

theorem takenIds_taking (h : m.index < ws.machines.length) :
    (ws.taking m r).takenIds m = ws.takenIds m ++ [(ws.entity r).id] := by
  rw [takenIds, machine_taking_self ws m r h, takenIds]
  simp [Machine.enroll, Machine.join, Assoc.keys]

end

/-! ## A list of additions -/

/-- The workspace after a machine has taken several entities over, in order. -/
def takingAll (ws : Workspace) (m : MachineRef) (refs : List EntityRef) : Workspace :=
  refs.foldl (fun ws r => ws.taking m r) ws

def idsOf (ws : Workspace) (refs : List EntityRef) : List String := refs.map fun r => (ws.entity r).id

/-- A machine can take entities of held kinds whose ids differ from each other and are neither given out nor
reserved. -/
structure Admits (ws : Workspace) (m : MachineRef) (refs : List EntityRef) : Prop where
  holds : ∀ r ∈ refs, Machine.holds (ws.kindOf r) = true
  distinct : (ws.idsOf refs).Nodup
  free : ∀ id ∈ ws.idsOf refs, id ∉ ws.takenIds m
  allowed : ∀ id ∈ ws.idsOf refs, (ws.machine m).registry.reserved ≠ some id

@[simp]
theorem idsOf_taking (ws : Workspace) (m : MachineRef) (r : EntityRef) (refs : List EntityRef) :
    (ws.taking m r).idsOf refs = ws.idsOf refs := by
  simp only [idsOf, id_taking]

theorem admits_cons_iff (ws : Workspace) (m : MachineRef) (r : EntityRef) (rest : List EntityRef)
    (hm : m.index < ws.machines.length) :
    ws.Admits m (r :: rest) ↔ ws.refusal? m (.entity r) = none ∧ (ws.taking m r).Admits m rest := by
  have hreserved : ((ws.taking m r).machine m).registry.reserved = (ws.machine m).registry.reserved := by
    rw [machine_taking_self ws m r hm]
    rfl
  rw [refusal?_eq_none_iff]
  constructor
  · intro h
    have hid : (ws.entity r).id ∈ ws.idsOf (r :: rest) := List.mem_map_of_mem List.mem_cons_self
    have hd := List.nodup_cons.mp h.distinct
    refine ⟨⟨h.holds r List.mem_cons_self, h.free _ hid, h.allowed _ hid⟩, ?_, ?_, ?_, ?_⟩
    · rw [kindOf_taking]
      exact fun s hs => h.holds s (List.mem_cons_of_mem _ hs)
    · rw [idsOf_taking]
      exact hd.2
    · rw [idsOf_taking, takenIds_taking ws m r hm]
      intro id hmem htaken
      rcases List.mem_append.mp htaken with htaken | htaken
      · exact h.free id (List.mem_cons_of_mem _ hmem) htaken
      · rw [List.mem_singleton.mp htaken] at hmem
        exact hd.1 hmem
    · rw [idsOf_taking, hreserved]
      exact fun id hmem => h.allowed id (List.mem_cons_of_mem _ hmem)
  · rintro ⟨⟨hkind, hfree, hallowed⟩, hrest⟩
    have hholds := hrest.holds
    have hdistinct := hrest.distinct
    have hfrees := hrest.free
    have hallow := hrest.allowed
    rw [kindOf_taking] at hholds
    rw [idsOf_taking] at hdistinct hfrees hallow
    rw [takenIds_taking ws m r hm] at hfrees
    rw [hreserved] at hallow
    refine ⟨?_, ?_, ?_, ?_⟩
    · exact List.forall_mem_cons.mpr ⟨hkind, hholds⟩
    · exact List.nodup_cons.mpr ⟨fun hmem => hfrees _ hmem (by simp), hdistinct⟩
    · exact List.forall_mem_cons.mpr ⟨hfree, fun id hmem ht => hfrees id hmem (List.mem_append_left _ ht)⟩
    · exact List.forall_mem_cons.mpr ⟨hallowed, hallow⟩

theorem admits_nil (ws : Workspace) (m : MachineRef) : ws.Admits m [] :=
  ⟨by simp, List.nodup_nil, by simp [idsOf], by simp [idsOf]⟩

theorem add_of_admits (ws : Workspace) (m : MachineRef) (refs : List EntityRef)
    (hm : m.index < ws.machines.length) (h : ws.Admits m refs) :
    ws.add m (refs.map .entity) = (ws.takingAll m refs, .ok ()) := by
  induction refs generalizing ws with
  | nil => rfl
  | cons r rest ih =>
    obtain ⟨hfirst, hrest⟩ := (admits_cons_iff ws m r rest hm).mp h
    rw [List.map_cons, add, addOne_taken ws m r hfirst]
    exact ih (ws.taking m r) (by simpa using hm) hrest

/-- An addition succeeds if and only if the machine can take everything. -/
theorem add_ok_iff (ws : Workspace) (m : MachineRef) (refs : List EntityRef) (hm : m.index < ws.machines.length) :
    (ws.add m (refs.map .entity)).2 = .ok () ↔ ws.Admits m refs := by
  induction refs generalizing ws with
  | nil => exact ⟨fun _ => admits_nil ws m, fun _ => rfl⟩
  | cons r rest ih =>
    rw [admits_cons_iff ws m r rest hm, List.map_cons, add]
    cases hfirst : ws.refusal? m (.entity r) with
    | some fault =>
      rw [addOne_refused ws m _ fault hfirst]
      simp
    | none =>
      rw [addOne_taken ws m r hfirst]
      simpa using ih (ws.taking m r) (by simpa using hm)

/-- The first entity of a list whose id a machine cannot give out. -/
structure Stuck (ws : Workspace) (m : MachineRef) (before : List EntityRef) (r : EntityRef) : Prop where
  admits : ws.Admits m before
  clash : (ws.entity r).id ∈ ws.takenIds m ∨ (ws.entity r).id ∈ ws.idsOf before ∨
    (ws.machine m).registry.reserved = some (ws.entity r).id

/-- Of entities of held kinds all are taken over, or those before the first one whose id is not free. -/
theorem add_cases (ws : Workspace) (m : MachineRef) (refs : List EntityRef)
    (hm : m.index < ws.machines.length) (hkinds : ∀ r ∈ refs, Machine.holds (ws.kindOf r) = true) :
    ws.Admits m refs ∨ ∃ before r after existing new, refs = before ++ r :: after ∧ ws.Stuck m before r ∧
      ws.add m (refs.map .entity) = (ws.takingAll m before,
        .error (.duplicateIdentifier (ws.entity r).id existing new (ws.machine m).registry.reserved)) := by
  induction refs generalizing ws with
  | nil => exact Or.inl (admits_nil ws m)
  | cons r rest ih =>
    obtain ⟨hkind, hrest⟩ := List.forall_mem_cons.mp hkinds
    cases hfirst : ws.refusal? m (.entity r) with
    | some fault =>
      right
      obtain ⟨hid, existing, new, rfl⟩ := refusal?_of_holds ws m r fault hkind hfirst
      refine ⟨[], r, rest, existing, new, rfl, ⟨admits_nil ws m, hid.imp_right Or.inr⟩, ?_⟩
      rw [List.map_cons, add, addOne_refused ws m _ _ hfirst]
      rfl
    | none =>
      have hreserved : ((ws.taking m r).machine m).registry.reserved = (ws.machine m).registry.reserved := by
        rw [machine_taking_self ws m r hm]
        rfl
      rcases ih (ws.taking m r) (by simpa using hm) (by simpa using hrest) with hok | hstuck
      · exact Or.inl ((admits_cons_iff ws m r rest hm).mpr ⟨hfirst, hok⟩)
      · right
        obtain ⟨before, s, after, existing, new, rfl, ⟨hadmits, hclash⟩, hadd⟩ := hstuck
        refine ⟨r :: before, s, after, existing, new, rfl, ⟨?_, ?_⟩, ?_⟩
        · exact (admits_cons_iff ws m r before hm).mpr ⟨hfirst, hadmits⟩
        · rw [takenIds_taking ws m r hm, id_taking, idsOf_taking, hreserved] at hclash
          simp only [idsOf, List.map_cons, List.mem_cons, List.mem_append, List.not_mem_nil, or_false] at hclash ⊢
          tauto
        · rw [List.map_cons, add, addOne_taken ws m r hfirst]
          rw [id_taking, hreserved] at hadd
          exact hadd

/-! ## Reading after several additions -/

section
variable (ws : Workspace) (m : MachineRef) (refs : List EntityRef)

@[simp]
theorem length_machines_takingAll : (ws.takingAll m refs).machines.length = ws.machines.length := by
  induction refs generalizing ws with
  | nil => rfl
  | cons r rest ih => exact (ih _).trans (length_machines_taking ws m r)

@[simp]
theorem length_entities_takingAll : (ws.takingAll m refs).entities.length = ws.entities.length := by
  induction refs generalizing ws with
  | nil => rfl
  | cons r rest ih => exact (ih _).trans (length_entities_taking ws m r)

theorem entity_takingAll_congr {β : Type} (g : Entity → β) (h : ∀ e, g { e with machine := some m } = g e)
    (s : EntityRef) : g ((ws.takingAll m refs).entity s) = g (ws.entity s) := by
  induction refs generalizing ws with
  | nil => rfl
  | cons r rest ih => exact (ih _).trans (entity_taking_congr ws m r g h s)

@[simp]
theorem kindOf_takingAll : (ws.takingAll m refs).kindOf = ws.kindOf := by
  funext s
  exact entity_takingAll_congr ws m refs Entity.kind (fun _ => rfl) s

theorem entity_takingAll_of_not_mem (s : EntityRef) (h : s ∉ refs) :
    (ws.takingAll m refs).entity s = ws.entity s := by
  induction refs generalizing ws with
  | nil => rfl
  | cons r rest ih =>
    rw [List.mem_cons, not_or] at h
    exact (ih _ h.2).trans (entity_taking_ne ws m r s h.1)

theorem entity_takingAll_of_mem (s : EntityRef) (h : s ∈ refs) (hs : s.index < ws.entities.length) :
    (ws.takingAll m refs).entity s = { ws.entity s with machine := some m } := by
  induction refs generalizing ws with
  | nil => cases h
  | cons r rest ih =>
    by_cases hrest : s ∈ rest
    · have hgen := entity_taking_congr ws m r (fun e => { e with machine := some m }) (fun _ => rfl) s
      exact (ih (ws.taking m r) hrest (by simpa using hs)).trans hgen
    · obtain rfl : s = r := (List.mem_cons.mp h).resolve_right hrest
      exact (entity_takingAll_of_not_mem (ws.taking m s) m rest s hrest).trans (entity_taking_self ws m s hs)

theorem machine_takingAll_ne (n : MachineRef) (h : n ≠ m) : (ws.takingAll m refs).machine n = ws.machine n := by
  induction refs generalizing ws with
  | nil => rfl
  | cons r rest ih => exact (ih _).trans (machine_taking_ne ws m r n h)

/-- A machine registers what it takes over, and appends it to the members of its kind. -/
theorem machine_takingAll_self (hm : m.index < ws.machines.length) :
    (ws.takingAll m refs).machine m = { ws.machine m with
      registry := { (ws.machine m).registry with
        entries := (ws.machine m).registry.entries ++ refs.map fun r => ((ws.entity r).id, r) }
      members := fun k => (ws.machine m).members k ++ refs.filter (ws.kindOf · = k) } := by
  induction refs generalizing ws with
  | nil => simp [takingAll]
  | cons r rest ih =>
    have hstep := ih (ws.taking m r) (by simpa using hm)
    rw [machine_taking_self ws m r hm] at hstep
    simp only [id_taking, kindOf_taking] at hstep
    refine hstep.trans ?_
    simp only [Machine.enroll, Machine.join, List.map_cons, List.filter_cons, List.append_assoc,
      List.cons_append, List.nil_append]
    congr 1
    funext k
    by_cases hk : ws.kindOf r = k
    · simp [hk]
    · have hk' : ¬ k = ws.kindOf r := fun e => hk e.symm
      simp [hk, hk']

end

end Workspace

end StateMachine
