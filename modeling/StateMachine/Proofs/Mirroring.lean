import Mathlib.Data.Multiset.Basic
import StateMachine.Proofs.Colliding
import StateMachine.Proofs.Deciding
import StateMachine.Proofs.Extracted

/-!
# Machines with the same contents in another order

What a check says of a machine depends on what the entities of the machine say, and not on the order in which they were
added: this only tells in which order findings about references and constants are listed, and the arcs of a collision.
-/

namespace StateMachine

/-! ## What entities say -/

/-- What an entity says: all of it but its number and the machine that it belongs to. -/
def Entity.content (e : Entity) : Entity := e.unnumbered.detached

namespace Entity

variable (e : Entity)

@[simp]
theorem id_content : e.content.id = e.id := e.id_unnumbered

@[simp]
theorem location_content : e.content.location = e.location := e.location_unnumbered

@[simp]
theorem enumId_content : e.content.enumId = e.enumId := e.enumId_unnumbered

@[simp]
theorem kind_content : e.content.kind = e.kind := e.kind_unnumbered

@[simp]
theorem transition_content : e.content.transition = e.transition := e.transition_unnumbered

end Entity

namespace Workspace

section
variable (ws : Workspace) (m : MachineRef)

def contentOf (r : EntityRef) : Entity := (ws.entity r).content

/-- What was added to a machine under which id. -/
def roll : List (String × Entity) := (ws.machine m).added.map fun entry => (entry.1, ws.contentOf entry.2)

/-- The errors of references. -/
def misreferences : List Diagnostic := (ws.members m .arc).flatMap (ws.referenceErrors m)

/-- Groups of entities, with what these say in no order. -/
def unordered {κ : Type} (groups : List (κ × List EntityRef)) : List (κ × Multiset Entity) :=
  groups.map fun group => (group.1, (group.2.map ws.contentOf : List Entity))

/-- Two machines have the same id and hold the same, in whatever order. -/
structure Mirrors (n : MachineRef) : Prop where
  consistent : (ws.machine m).Consistent ws.kindOf ws.entities.length
  consistent' : (ws.machine n).Consistent ws.kindOf ws.entities.length
  id_eq : (ws.machine n).head.id = (ws.machine m).head.id
  allState_eq : ws.contentOf (ws.machine n).allState = ws.contentOf (ws.machine m).allState
  roll_perm : (ws.roll n).Perm (ws.roll m)

/-- The reports on two machines say the same, but for the order of misreferences, of the arcs in a collision, of shared
constants and of their holders. -/
structure SameFindings (n : MachineRef) : Prop where
  machineId_eq : (ws.check n).1.machineId = (ws.check m).1.machineId
  stateCount_eq : (ws.check n).1.stateCount = (ws.check m).1.stateCount
  eventCount_eq : (ws.check n).1.eventCount = (ws.check m).1.eventCount
  arcCount_eq : (ws.check n).1.arcCount = (ws.check m).1.arcCount
  isValid_eq : (ws.check n).1.isValid = (ws.check m).1.isValid
  errors_eq : ∀ x ∈ [m, n], (ws.check x).1.errors =
    ws.misreferences x ++ (ws.collisions x).map fun group => ws.collisionError group.1 group.2
  misreferences_perm : (ws.misreferences n).Perm (ws.misreferences m)
  collisions_eq : ws.unordered (ws.collisions n) = ws.unordered (ws.collisions m)
  warnings_eq : ∀ x ∈ [m, n], (ws.check x).1.warnings =
    (ws.sharedConstants x).map fun group => ws.sharedConstantWarning group.1 group.2
  constants_perm : (ws.unordered (ws.sharedConstants n)).Perm (ws.unordered (ws.sharedConstants m))

@[simp]
theorem id_contentOf (r : EntityRef) : (ws.contentOf r).id = (ws.entity r).id := Entity.id_content _

@[simp]
theorem kind_contentOf (r : EntityRef) : (ws.contentOf r).kind = ws.kindOf r := Entity.kind_content _

/-! ## Groups in no order -/

/-- If the groups collect what is listed under one key, then so do the unordered groups. -/
theorem mem_unordered_iff {κ : Type} [DecidableEq κ] (groups : List (κ × List EntityRef)) (listed : List EntityRef)
    (key? : Entity → Option κ)
    (h : ∀ k group, (k, group) ∈ groups ↔
      2 ≤ group.length ∧ group = listed.filter fun r => key? (ws.contentOf r) = some k) (k : κ) (group : Multiset Entity) :
    (k, group) ∈ ws.unordered groups ↔ 2 ≤ group.card ∧
      group = (((listed.map ws.contentOf).filter fun e => key? e = some k : List Entity) : Multiset Entity) := by
  have hfilter : (listed.map ws.contentOf).filter (fun e => key? e = some k) =
      (listed.filter fun r => key? (ws.contentOf r) = some k).map ws.contentOf := List.filter_map
  rw [hfilter, unordered, List.mem_map]
  constructor
  · rintro ⟨⟨k', refs⟩, hmem, heq⟩
    obtain ⟨rfl, rfl⟩ := Prod.mk.inj heq
    obtain ⟨hshared, hrefs⟩ := (h k' refs).mp hmem
    refine ⟨by simpa using hshared, ?_⟩
    rw [← hrefs]
  · rintro ⟨hshared, rfl⟩
    refine ⟨(k, _), (h k _).mpr ⟨by simpa using hshared, rfl⟩, rfl⟩

theorem mem_sharedConstants_iff (enumId : Option String) (holders : List EntityRef) :
    (enumId, holders) ∈ ws.sharedConstants m ↔ 2 ≤ holders.length ∧
      holders = (ws.registered m).filter fun r => (ws.entity r).enumId = enumId := by
  unfold sharedConstants
  rw [List.mem_filter, Assoc.mem_groupBy_iff_ne_nil, decide_eq_true_iff]
  simp only [beq_eq_decide]
  constructor
  · rintro ⟨⟨_, hholders⟩, hshared⟩
    exact ⟨hshared, hholders⟩
  · rintro ⟨hshared, hholders⟩
    exact ⟨⟨List.ne_nil_of_length_pos (by omega), hholders⟩, hshared⟩

theorem nodup_sharedConstants : ((ws.sharedConstants m).map (·.1)).Nodup :=
  (Assoc.nodup_keys_groupBy _ _).sublist (List.filter_sublist.map _)

/-! ## What a check reads -/

theorem referenceError?_content (e : Entity) (role : Role) :
    ws.referenceError? m e.content role = ws.referenceError? m e role := by
  simp only [referenceError?, arcError, Entity.whereText, Entity.transition_content, Entity.id_content,
    Entity.location_content]

/-- The exit of an arc with this content. -/
def contentExit? (e : Entity) : Option (String × String) :=
  if (ws.referenceError? m e .origin).isSome then none
  else some (e.transition.fromId.getD "", eventKey e.transition)

theorem exitKey?_eq_contentExit? (r : EntityRef) : ws.exitKey? m r = ws.contentExit? m (ws.contentOf r) := by
  rw [contentExit?, contentOf, referenceError?_content, Entity.transition_content, exitKey?]

theorem misreferences_eq : ws.misreferences m = ((ws.members m .arc).map ws.contentOf).flatMap fun e =>
    [Role.origin, .target, .event].filterMap (ws.referenceError? m e) := by
  rw [misreferences, List.flatMap_map]
  apply List.flatMap_congr
  intro r _
  simp only [referenceErrors, contentOf, referenceError?_content]

theorem mem_unordered_collisions_iff (key : String × String) (group : Multiset Entity) :
    (key, group) ∈ ws.unordered (ws.collisions m) ↔ 2 ≤ group.card ∧
      group = ((((ws.members m .arc).map ws.contentOf).filter fun e => ws.contentExit? m e = some key : List Entity) :
        Multiset Entity) := by
  refine ws.mem_unordered_iff _ _ _ (fun k arcs => ?_) key group
  simp only [mem_collisions_iff, exitKey?_eq_contentExit?]

theorem mem_unordered_sharedConstants_iff (enumId : Option String) (group : Multiset Entity) :
    (enumId, group) ∈ ws.unordered (ws.sharedConstants m) ↔ 2 ≤ group.card ∧
      group = ((((ws.registered m).map ws.contentOf).filter fun e => some e.enumId = some enumId : List Entity) :
        Multiset Entity) := by
  refine ws.mem_unordered_iff _ _ (fun e => some e.enumId) (fun k holders => ?_) enumId group
  simp only [mem_sharedConstants_iff, contentOf, Entity.enumId_content, Option.some.injEq]

end

/-! ## What the roll tells -/

section
variable {ws : Workspace} {m : MachineRef} (hx : (ws.machine m).Consistent ws.kindOf ws.entities.length)
include hx

theorem map_contentOf_members (kind : Kind) :
    (ws.members m kind).map ws.contentOf = ((ws.roll m).map (·.2)).filter (·.kind = kind) := by
  rw [members, hx.members_eq, roll, List.map_map, List.filter_map, List.filter_map, List.map_map]
  simp only [Function.comp_def, kind_contentOf]

theorem map_contentOf_registered :
    (ws.registered m).map ws.contentOf = ws.contentOf (ws.machine m).allState :: (ws.roll m).map (·.2) := by
  rw [registered, Registry.entities, hx.entries_eq, roll, List.map_map, List.map_map]
  rfl

theorem snd_ledger_eq : (ws.ledger m).2 =
    (allStateId, (ws.contentOf (ws.machine m).allState).kind) :: (ws.roll m).map fun entry => (entry.1, entry.2.kind) := by
  rw [ledger, hx.entries_eq, roll, List.map_map]
  simp only [List.map_cons, Function.comp_def, kind_contentOf]

end

/-! ## What mirrored machines have in common -/

namespace Mirrors

variable {ws : Workspace} {m n : MachineRef} (h : ws.Mirrors m n)
include h

theorem members_perm (kind : Kind) :
    ((ws.members n kind).map ws.contentOf).Perm ((ws.members m kind).map ws.contentOf) := by
  rw [map_contentOf_members h.consistent', map_contentOf_members h.consistent]
  exact (h.roll_perm.map _).filter _

theorem length_members_eq (kind : Kind) : (ws.members n kind).length = (ws.members m kind).length := by
  simpa only [List.length_map] using (h.members_perm kind).length_eq

theorem registered_perm : ((ws.registered n).map ws.contentOf).Perm ((ws.registered m).map ws.contentOf) := by
  rw [map_contentOf_registered h.consistent', map_contentOf_registered h.consistent, h.allState_eq]
  exact (h.roll_perm.map _).cons _

theorem kind_find?_eq (id : String) :
    ((ws.machine n).registry.find? id).map ws.kindOf = ((ws.machine m).registry.find? id).map ws.kindOf := by
  have hperm : (ws.ledger n).2.Perm (ws.ledger m).2 := by
    rw [snd_ledger_eq h.consistent', snd_ledger_eq h.consistent, h.allState_eq]
    exact (h.roll_perm.map _).cons _
  have hkeys : (Assoc.keys (ws.ledger n).2).Nodup := by
    rw [ledger, Assoc.keys, List.map_map]
    exact h.consistent'.keys_nodup
  rw [← lookup_ledger, ← lookup_ledger, Assoc.lookup_eq_of_perm hperm hkeys]

theorem referenceError?_eq : ws.referenceError? n = ws.referenceError? m := by
  funext e role
  unfold referenceError?
  split
  · rfl
  · rfl
  case h_3 id _ _ =>
    -- Of what is found under the id, only the kind is looked at.
    have hkind := h.kind_find?_eq id
    cases hm : (ws.machine m).registry.find? id <;> cases hn : (ws.machine n).registry.find? id <;> simp_all

theorem misreferences_perm : (ws.misreferences n).Perm (ws.misreferences m) := by
  rw [misreferences_eq, misreferences_eq, h.referenceError?_eq]
  exact (h.members_perm .arc).flatMap_right _

theorem contentExit?_eq : ws.contentExit? n = ws.contentExit? m := by
  funext e
  rw [contentExit?, h.referenceError?_eq, contentExit?]

/-- The order of exits leaves no choice, as no two groups have one exit. -/
theorem collisions_eq : ws.unordered (ws.collisions n) = ws.unordered (ws.collisions m) := by
  have hascending : ∀ x : MachineRef,
      (ws.unordered (ws.collisions x)).Pairwise fun a b => exitRank a.1 < exitRank b.1 := fun x =>
    List.pairwise_map.mpr (List.pairwise_map.mp (ws.ascending_collisions x))
  have hirrefl : Std.Irrefl fun a b : (String × String) × Multiset Entity => exitRank a.1 < exitRank b.1 :=
    ⟨fun _ => lt_irrefl _⟩
  have hantisymm : Std.Antisymm fun a b : (String × String) × Multiset Entity => exitRank a.1 < exitRank b.1 :=
    ⟨fun _ _ hab hba => absurd hba (lt_asymm hab)⟩
  refine (hascending n).eq_of_mem_iff (hascending m) ?_
  rintro ⟨key, group⟩
  rw [mem_unordered_collisions_iff, mem_unordered_collisions_iff, h.contentExit?_eq,
    Multiset.coe_eq_coe.mpr ((h.members_perm .arc).filter _)]

theorem sharedConstants_perm :
    (ws.unordered (ws.sharedConstants n)).Perm (ws.unordered (ws.sharedConstants m)) := by
  have hnodup : ∀ x : MachineRef, (ws.unordered (ws.sharedConstants x)).Nodup := fun x => by
    refine List.Nodup.of_map (·.1) ?_
    rw [unordered, List.map_map]
    exact ws.nodup_sharedConstants x
  rw [List.perm_ext_iff_of_nodup (hnodup n) (hnodup m)]
  rintro ⟨enumId, group⟩
  rw [mem_unordered_sharedConstants_iff, mem_unordered_sharedConstants_iff,
    Multiset.coe_eq_coe.mpr (h.registered_perm.filter _)]

theorem isValid_eq : (ws.check n).1.isValid = (ws.check m).1.isValid := by
  have hlength : (ws.errors n).length = (ws.errors m).length := by
    have hgroups := congrArg List.length h.collisions_eq
    rw [unordered, unordered, List.length_map, List.length_map] at hgroups
    rw [errors, errors, List.length_append, List.length_append, List.length_map, List.length_map, hgroups]
    exact congrArg (· + _) h.misreferences_perm.length_eq
  rw [Bool.eq_iff_iff, isValid_check_iff, isValid_check_iff, ← List.length_eq_zero_iff, hlength,
    List.length_eq_zero_iff]

theorem sameFindings : ws.SameFindings m n where
  machineId_eq := by simp only [check_eq_examine, examine, h.id_eq]
  stateCount_eq := by simp only [check_eq_examine, examine, h.length_members_eq]
  eventCount_eq := by simp only [check_eq_examine, examine, h.length_members_eq]
  arcCount_eq := by simp only [check_eq_examine, examine, h.length_members_eq]
  isValid_eq := h.isValid_eq
  errors_eq x _ := congrArg Report.errors (check_eq_examine ws x)
  misreferences_perm := h.misreferences_perm
  collisions_eq := h.collisions_eq
  warnings_eq x _ := congrArg Report.warnings (check_eq_examine ws x)
  constants_perm := h.sharedConstants_perm

end Mirrors

end Workspace

end StateMachine
