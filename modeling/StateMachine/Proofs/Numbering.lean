import Mathlib.Data.List.Nodup
import StateMachine.Proofs.Consistency
import StateMachine.Proofs.Registry
import StateMachine.Proofs.Sorting

/-!
# Names and numbers

If no entity got another id after it was registered, the registry names each entity once. Then numbering gives every
state the number of its place.
-/

namespace StateMachine

theorem Kind.name_injective {a b : Kind} (h : a.name = b.name) : a = b := by
  cases a <;> cases b <;> first | rfl | simp [Kind.name] at h

namespace Workspace

/-- All entities of a machine have the ids under which they were registered. -/
def Named (ws : Workspace) (m : MachineRef) : Prop :=
  ∀ entry ∈ (ws.machine m).registry.entries, (ws.entity entry.2).id = entry.1

instance (ws : Workspace) (m : MachineRef) : Decidable (ws.Named m) :=
  inferInstanceAs (Decidable (∀ entry ∈ (ws.machine m).registry.entries, (ws.entity entry.2).id = entry.1))

/-- All arcs of a machine point back to it. -/
def ArcsBelong (ws : Workspace) (m : MachineRef) : Prop :=
  ∀ r ∈ ws.members m .arc, (ws.entity r).machine = some m

instance (ws : Workspace) (m : MachineRef) : Decidable (ws.ArcsBelong m) :=
  inferInstanceAs (Decidable (∀ r ∈ ws.members m .arc, (ws.entity r).machine = some m))

/-! ## Registered entities -/

theorem lt_of_mem_members (ws : Workspace) (m : MachineRef) (kind : Kind) (r : EntityRef)
    (h : r ∈ ws.members m kind) : m.index < ws.machines.length := by
  by_contra hm
  rw [members, machine_eq, List.getElem?_eq_none (by omega)] at h
  cases h

theorem kindOf_of_find (ws : Workspace) (m : MachineRef) (kind : Kind) (id : Option String) (r : EntityRef)
    (h : ws.find m kind id = .ok (some r)) : ws.kindOf r = kind := by
  rw [find, lookup, Registry.lookup_eq_some_iff] at h
  exact Kind.name_injective (h.2 kind.name rfl)

section
variable {ws : Workspace} {m : MachineRef} (hx : (ws.machine m).Consistent ws.kindOf ws.entities.length)
include hx

/-- A lookup finds what is registered under the id, if its kind is the wanted one. -/
theorem find_eq_some_iff (kind : Kind) (id : Option String) (r : EntityRef) :
    ws.find m kind id = .ok (some r) ↔
      ∃ i, id = some i ∧ (i, r) ∈ (ws.machine m).registry.entries ∧ ws.kindOf r = kind := by
  have hmem : ∀ i, (ws.machine m).registry.find? i = some r ↔ (i, r) ∈ (ws.machine m).registry.entries :=
    fun i => Assoc.lookup_eq_some_iff_mem _ hx.keys_nodup i r
  rw [find, lookup, Registry.lookup_eq_some_iff]
  constructor
  · rintro ⟨⟨i, rfl, hfound⟩, hkind⟩
    exact ⟨i, rfl, (hmem i).mp hfound, Kind.name_injective (hkind kind.name rfl)⟩
  · rintro ⟨i, rfl, hentry, rfl⟩
    refine ⟨⟨i, rfl, (hmem i).mpr hentry⟩, fun wanted hwanted => ?_⟩
    exact Option.some.inj hwanted

theorem eq_of_mem_entries (id : String) (r s : EntityRef) (hr : (id, r) ∈ (ws.machine m).registry.entries)
    (hs : (id, s) ∈ (ws.machine m).registry.entries) : r = s := by
  have hr := (Assoc.lookup_eq_some_iff_mem _ hx.keys_nodup _ _).mpr hr
  have hs := (Assoc.lookup_eq_some_iff_mem _ hx.keys_nodup _ _).mpr hs
  rw [hr] at hs
  exact Option.some.inj hs

theorem mem_members_iff (kind : Kind) (r : EntityRef) :
    r ∈ ws.members m kind ↔ ∃ id, (id, r) ∈ (ws.machine m).added ∧ ws.kindOf r = kind := by
  rw [members, hx.members_eq, List.mem_filter, List.mem_map, decide_eq_true_eq]
  constructor
  · rintro ⟨⟨⟨id, s⟩, hmem, rfl⟩, hkind⟩
    exact ⟨id, hmem, hkind⟩
  · rintro ⟨id, hmem, hkind⟩
    exact ⟨⟨(id, r), hmem, rfl⟩, hkind⟩

theorem known_of_mem_members (kind : Kind) (r : EntityRef) (h : r ∈ ws.members m kind) :
    r.index < ws.entities.length ∧ ws.kindOf r = kind := by
  obtain ⟨id, hmem, hkind⟩ := (mem_members_iff hx kind r).mp h
  exact ⟨hx.known _ (Machine.mem_entries_of_added _ hmem), hkind⟩

theorem members_plain : ws.members m .plain = [] := by
  refine List.eq_nil_iff_forall_not_mem.mpr fun r hr => ?_
  obtain ⟨id, hadded, hkind⟩ := (mem_members_iff hx .plain r).mp hr
  have hholds := hx.added_kind _ hadded
  rw [hkind] at hholds
  cases hholds

theorem mem_states_of_entries (id : String) (r : EntityRef) (h : (id, r) ∈ (ws.machine m).registry.entries)
    (hkind : ws.kindOf r = .state) : r = (ws.machine m).allState ∨ r ∈ ws.members m .state := by
  rw [hx.entries_eq] at h
  rcases List.mem_cons.mp h with h | h
  · exact Or.inl (Prod.mk.inj h).2
  · exact Or.inr ((mem_members_iff hx .state r).mpr ⟨id, h, hkind⟩)

theorem state_of_find {id : Option String} {r : EntityRef} (h : ws.find m .state id = .ok (some r)) :
    r = (ws.machine m).allState ∨ r ∈ ws.members m .state := by
  obtain ⟨i, _, hentry, hkind⟩ := (find_eq_some_iff hx .state id r).mp h
  exact mem_states_of_entries hx i r hentry hkind

variable (hn : ws.Named m)
include hn

theorem mem_entries_iff (id : String) (r : EntityRef) :
    (id, r) ∈ (ws.machine m).registry.entries ↔
      (r = (ws.machine m).allState ∨ ∃ kind, r ∈ ws.members m kind) ∧ (ws.entity r).id = id := by
  constructor
  · intro h
    refine ⟨?_, hn _ h⟩
    rw [hx.entries_eq] at h
    rcases List.mem_cons.mp h with h | h
    · exact Or.inl (Prod.mk.inj h).2
    · exact Or.inr ⟨_, (mem_members_iff hx _ r).mpr ⟨id, h, rfl⟩⟩
  · rintro ⟨rfl | ⟨kind, hr⟩, rfl⟩
    · rw [hn _ hx.allState_mem]
      exact hx.allState_mem
    · obtain ⟨id, hmem, _⟩ := (mem_members_iff hx kind r).mp hr
      have hmem := Machine.mem_entries_of_added _ hmem
      rw [hn _ hmem]
      exact hmem

theorem id_allState : (ws.entity (ws.machine m).allState).id = allStateId := by
  exact hn _ hx.allState_mem

/-- No entity is registered twice. -/
theorem nodup_refs : ((ws.machine m).registry.entries.map (·.2)).Nodup := by
  refine List.Nodup.of_map (fun r => (ws.entity r).id) ?_
  have hids : ((ws.machine m).registry.entries.map (·.2)).map (fun r => (ws.entity r).id) =
      Assoc.keys (ws.machine m).registry.entries := by
    rw [List.map_map]
    exact List.map_congr_left hn
  rw [hids]
  exact hx.keys_nodup

theorem nodup_members (kind : Kind) : (ws.members m kind).Nodup := by
  have h := nodup_refs hx hn
  rw [hx.entries_eq, List.map_cons, List.nodup_cons] at h
  rw [members, hx.members_eq]
  exact h.2.filter _

theorem allState_not_mem (kind : Kind) : (ws.machine m).allState ∉ ws.members m kind := by
  have h := nodup_refs hx hn
  rw [hx.entries_eq, List.map_cons, List.nodup_cons] at h
  rw [members, hx.members_eq]
  exact fun hmem => h.1 (List.mem_of_mem_filter hmem)

theorem id_ne_all (kind : Kind) (r : EntityRef) (hr : r ∈ ws.members m kind) : (ws.entity r).id ≠ allStateId := by
  intro hall
  have hentry := (mem_entries_iff hx hn _ r).mpr ⟨Or.inr ⟨kind, hr⟩, hall⟩
  rw [eq_of_mem_entries hx _ r _ hentry hx.allState_mem] at hr
  exact allState_not_mem hx hn kind hr

theorem eq_of_id_eq (kind kind' : Kind) (r s : EntityRef) (hr : r ∈ ws.members m kind) (hs : s ∈ ws.members m kind')
    (h : (ws.entity r).id = (ws.entity s).id) : r = s :=
  eq_of_mem_entries hx _ r s ((mem_entries_iff hx hn _ r).mpr ⟨Or.inr ⟨kind, hr⟩, h⟩)
    ((mem_entries_iff hx hn _ s).mpr ⟨Or.inr ⟨kind', hs⟩, rfl⟩)

theorem findState_iff (id : Option String) (r : EntityRef) :
    ws.find m .state id = .ok (some r) ↔
      (r = (ws.machine m).allState ∨ r ∈ ws.members m .state) ∧ id = some (ws.entity r).id := by
  rw [find_eq_some_iff hx]
  constructor
  · rintro ⟨i, rfl, hmem, hkind⟩
    rw [hn _ hmem]
    exact ⟨mem_states_of_entries hx i r hmem hkind, rfl⟩
  · rintro ⟨hr, rfl⟩
    refine ⟨_, rfl, (mem_entries_iff hx hn _ r).mpr ⟨hr.imp_right fun h => ⟨.state, h⟩, rfl⟩, ?_⟩
    rcases hr with rfl | hr
    · exact hx.allState_kind
    · exact (known_of_mem_members hx .state r hr).2

theorem findMember_iff (kind : Kind) (hkind : kind ≠ .state) (id : Option String) (r : EntityRef) :
    ws.find m kind id = .ok (some r) ↔ r ∈ ws.members m kind ∧ id = some (ws.entity r).id := by
  rw [find_eq_some_iff hx]
  constructor
  · rintro ⟨i, rfl, hmem, hr⟩
    rw [hn _ hmem]
    rw [hx.entries_eq] at hmem
    rcases List.mem_cons.mp hmem with hall | hadded
    · rw [(Prod.mk.inj hall).2, hx.allState_kind] at hr
      exact absurd hr.symm hkind
    · exact ⟨(mem_members_iff hx kind r).mpr ⟨i, hadded, hr⟩, rfl⟩
  · rintro ⟨hr, rfl⟩
    exact ⟨_, rfl, (mem_entries_iff hx hn _ r).mpr ⟨Or.inr ⟨kind, hr⟩, rfl⟩, (known_of_mem_members hx kind r hr).2⟩

end

/-! ## Numbers -/

theorem number_withNumber (e : Entity) (n : Option Int) (h : e.kind = .state) : (e.withNumber n).number = n := by
  unfold Entity.withNumber
  split
  case h_1 => rfl
  case h_2 hno =>
    cases hd : e.detail with
    | state entry exit number => exact absurd hd (hno entry exit number)
    | _ => simp [Entity.kind, hd, Detail.kind] at h

def numberFrom (ws : Workspace) (k : Nat) (states : List EntityRef) : Workspace :=
  (states.zipIdx k).foldl (fun ws (r, n) => ws.modifyEntity r fun e => e.withNumber (some n)) ws

theorem machine_numberFrom (ws : Workspace) (k : Nat) (states : List EntityRef) (n : MachineRef) :
    (ws.numberFrom k states).machine n = ws.machine n := by
  induction states generalizing ws k with
  | nil => rfl
  | cons s rest ih => exact ih (ws.modifyEntity s _) (k + 1)

theorem renumber_eq (ws : Workspace) (m : MachineRef) :
    ws.renumber m = (ws.numberFrom 1 (ws.members m .state)).modifyEntity (ws.machine m).allState
      fun e => e.withNumber (some (-1)) := by
  rw [← machine_numberFrom ws 1 (ws.members m .state) m]
  rfl

theorem number_modifyEntity (ws : Workspace) (r : EntityRef) (n : Option Int)
    (hr : r.index < ws.entities.length ∧ ws.kindOf r = .state) :
    ((ws.modifyEntity r fun e => e.withNumber n).entity r).number = n := by
  rw [entity_modifyEntity_self ws r _ hr.1]
  exact number_withNumber _ _ hr.2

theorem kindOf_modifyEntity_number (ws : Workspace) (r : EntityRef) (n : Option Int) :
    (ws.modifyEntity r fun e => e.withNumber n).kindOf = ws.kindOf := by
  funext s
  exact entity_modifyEntity_congr Entity.kind ws r s _ fun e => e.kind_withNumber n

/-- Every state gets the number of its place. -/
theorem number_numberFrom (ws : Workspace) (k : Nat) (states : List EntityRef) (hnodup : states.Nodup)
    (hstates : ∀ r ∈ states, r.index < ws.entities.length ∧ ws.kindOf r = .state) (r : EntityRef) :
    ((ws.numberFrom k states).entity r).number =
      if r ∈ states then some ((states.idxOf r + k : Nat) : Int) else (ws.entity r).number := by
  induction states generalizing ws k with
  | nil => rfl
  | cons s rest ih =>
    rw [List.nodup_cons] at hnodup
    obtain ⟨hs, hrest⟩ := List.forall_mem_cons.mp hstates
    have hstep := ih (ws.modifyEntity s fun e => e.withNumber (some (k : Int))) (k + 1) hnodup.2
      (by rw [length_modifyEntity, kindOf_modifyEntity_number]; exact hrest)
    rw [numberFrom, List.zipIdx_cons, List.foldl_cons]
    refine Eq.trans hstep ?_
    by_cases hr : r = s
    · subst hr
      rw [if_neg hnodup.1, if_pos List.mem_cons_self, number_modifyEntity ws r _ hs, List.idxOf_cons_self]
      simp
    · rw [entity_modifyEntity_ne ws s r _ hr, List.idxOf_cons_ne _ (Ne.symm hr)]
      by_cases hmem : r ∈ rest
      · rw [if_pos hmem, if_pos (List.mem_cons_of_mem _ hmem)]
        congr 2
        omega
      · rw [if_neg hmem, if_neg (by simp [hr, hmem])]

theorem length_numberFrom (ws : Workspace) (k : Nat) (states : List EntityRef) :
    (ws.numberFrom k states).entities.length = ws.entities.length := by
  induction states generalizing ws k with
  | nil => rfl
  | cons s rest ih => exact (ih _ (k + 1)).trans (length_modifyEntity _ _ _)

theorem kindOf_numberFrom (ws : Workspace) (k : Nat) (states : List EntityRef) :
    (ws.numberFrom k states).kindOf = ws.kindOf := by
  induction states generalizing ws k with
  | nil => rfl
  | cons s rest ih => exact (ih _ (k + 1)).trans (kindOf_modifyEntity_number _ _ _)

/-- The number that a state of a machine has after numbering: its place, or -1 for `#ALL`. -/
def rankOf (ws : Workspace) (m : MachineRef) (r : EntityRef) : Int :=
  if r = (ws.machine m).allState then -1 else ((ws.members m .state).idxOf r + 1 : Nat)

theorem rankOf_allState (ws : Workspace) (m : MachineRef) : ws.rankOf m (ws.machine m).allState = -1 := if_pos rfl

section
variable {ws : Workspace} {m : MachineRef} (hx : (ws.machine m).Consistent ws.kindOf ws.entities.length)
  (hn : ws.Named m)
include hx hn

theorem number_renumber (r : EntityRef) (hr : r = (ws.machine m).allState ∨ r ∈ ws.members m .state) :
    ((ws.renumber m).entity r).number = some (ws.rankOf m r) := by
  have hall : (ws.machine m).allState.index < ws.entities.length := hx.known _ hx.allState_mem
  rw [renumber_eq, rankOf]
  by_cases h : r = (ws.machine m).allState
  · rw [if_pos h, h, number_modifyEntity]
    rw [length_numberFrom, kindOf_numberFrom]
    exact ⟨hall, hx.allState_kind⟩
  · have hr := hr.resolve_left h
    rw [if_neg h, entity_modifyEntity_ne _ _ _ _ h,
      number_numberFrom ws 1 _ (nodup_members hx hn .state) (known_of_mem_members hx .state), if_pos hr]

theorem numberOf_renumber (r : EntityRef) (hr : r = (ws.machine m).allState ∨ r ∈ ws.members m .state) :
    (ws.renumber m).numberOf r = ws.rankOf m r := by
  rw [numberOf, number_renumber hx hn r hr]
  rfl

theorem rankOf_member (r : EntityRef) (hr : r ∈ ws.members m .state) :
    ws.rankOf m r = ((ws.members m .state).idxOf r + 1 : Nat) := by
  apply if_neg
  rintro rfl
  exact allState_not_mem hx hn .state hr

/-- States are members in the order of their numbers. -/
theorem pairwise_rankOf :
    ((ws.machine m).allState :: ws.members m .state).Pairwise (ws.rankOf m · < ws.rankOf m ·) := by
  refine List.pairwise_cons.mpr ⟨?_, List.pairwise_iff_getElem.mpr ?_⟩
  · intro r hr
    rw [rankOf_allState, rankOf_member hx hn r hr]
    omega
  · intro i j hi hj hij
    rw [rankOf_member hx hn _ (List.getElem_mem hi), rankOf_member hx hn _ (List.getElem_mem hj),
      (nodup_members hx hn .state).idxOf_getElem, (nodup_members hx hn .state).idxOf_getElem]
    omega

theorem pairwise_rankOf_members : (ws.members m .state).Pairwise (ws.rankOf m · < ws.rankOf m ·) :=
  (List.pairwise_cons.mp (pairwise_rankOf hx hn)).2

/-- After numbering, the order of numbers is the order of addition. -/
theorem byNumber_members : (ws.renumber m).byNumber (ws.members m .state) = ws.members m .state := by
  apply sorted_of_pairwise
  refine (pairwise_rankOf_members hx hn).imp_of_mem ?_
  intro a b ha hb hlt
  rw [numberOf_renumber hx hn a (Or.inr ha), numberOf_renumber hx hn b (Or.inr hb)]
  exact decide_eq_true (Int.le_of_lt hlt)

theorem states_eq_members : (ws.states m).1 = ws.members m .state := by
  rw [states]
  dsimp only
  rw [members_of_bare_eq (bare_renumber ws m), byNumber_members hx hn]

end

end Workspace

end StateMachine
