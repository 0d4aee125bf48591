import StateMachine.Proofs.History

/-!
# What machines register

Whatever was done, a machine registers its state `#ALL` and then what was added to it, each entity under its id and
among the members of its kind. A lookup finds the one entity of an id, or says that it is of another kind.
-/

namespace StateMachine

namespace Workspace

/-! ## Machines in order -/

/-- A machine registers its state `#ALL` and these entities, in this order, each under its id and among the members of
its kind, and finds them there. -/
structure Registers (ws : Workspace) (m : MachineRef) (added : List EntityRef) : Prop where
  keys_nodup : (ws.takenIds m).Nodup
  keys_eq : ws.takenIds m = ws.idsOf (ws.registered m)
  allState_found : (ws.machine m).registry.find? allStateId = some (ws.machine m).allState
  own_free : ∀ id ∈ (ws.machine m).head.id, id ∉ ws.takenIds m
  registered_eq : ws.registered m = (ws.machine m).allState :: added
  kinds : ∀ r ∈ added, ws.kindOf r ∈ [Kind.state, .event, .arc, .action, .bundle]
  members_eq : ∀ kind, ws.members m kind =
    (ws.registered m).filter fun r => ws.kindOf r = kind ∧ r ≠ (ws.machine m).allState
  finds_some : ∀ id wanted r, ws.lookup m id wanted = .ok (some r) ↔
    r ∈ ws.registered m ∧ id = some (ws.entity r).id ∧ ∀ kind ∈ wanted, (ws.kindOf r).name = kind
  finds_none : ∀ id wanted, ws.lookup m id wanted = .ok none ↔ ∀ i ∈ id, i ∉ ws.takenIds m
  mismatch : ∀ id wanted fault, ws.lookup m id wanted = .error fault ↔
    ∃ r ∈ ws.registered m, ∃ kind, id = some (ws.entity r).id ∧ wanted = some kind ∧ (ws.kindOf r).name ≠ kind ∧
      fault = .kindMismatch (ws.entity r).id kind (ws.kindOf r).name

section
variable {ws : Workspace} {m : MachineRef} (hx : (ws.machine m).Consistent ws.kindOf ws.entities.length)
include hx

theorem find?_eq_some_iff (hn : ws.Named m) (id : String) (r : EntityRef) :
    (ws.machine m).registry.find? id = some r ↔ r ∈ ws.registered m ∧ id = (ws.entity r).id := by
  rw [Registry.find?, Assoc.lookup_eq_some_iff_mem _ hx.keys_nodup]
  constructor
  · intro h
    exact ⟨List.mem_map_of_mem h, (hn _ h).symm⟩
  · rintro ⟨hr, rfl⟩
    obtain ⟨entry, he, rfl⟩ := List.mem_map.mp hr
    rw [hn entry he]
    exact he

theorem registered_eq_joined : ws.registered m = (ws.machine m).allState :: ws.joined m := by
  rw [registered, Registry.entities, hx.entries_eq, List.map_cons, joined]

omit hx in
theorem holds_iff_mem_kinds (kind : Kind) :
    Machine.holds kind = true ↔ kind ∈ [Kind.state, .event, .arc, .action, .bundle] := by
  cases kind <;> decide

/-- A machine whose entities have kept their ids is in order. -/
theorem registers_joined (hn : ws.Named m) (hown : (ws.machine m).head.id = (ws.machine m).registry.reserved) :
    Registers ws m (ws.joined m) where
  keys_nodup := hx.keys_nodup
  keys_eq := by
    rw [takenIds, Assoc.keys, idsOf, registered, Registry.entities, List.map_map]
    exact List.map_congr_left fun entry he => (hn entry he).symm
  allState_found := (Assoc.lookup_eq_some_iff_mem _ hx.keys_nodup _ _).mpr hx.allState_mem
  own_free := by
    rw [hown]
    intro id hid hmem
    exact hx.not_reserved id hmem hid
  registered_eq := registered_eq_joined hx
  kinds := by
    intro r hr
    obtain ⟨entry, he, rfl⟩ := List.mem_map.mp hr
    exact (holds_iff_mem_kinds _).mp (hx.added_kind entry he)
  members_eq := by
    intro kind
    -- An entity that is registered twice would have two ids, so the state `#ALL` was not added again.
    have hfresh : ∀ r ∈ ws.joined m, r ≠ (ws.machine m).allState := by
      have hnodup := nodup_refs hx hn
      rw [hx.entries_eq, List.map_cons, List.nodup_cons] at hnodup
      exact fun r hr heq => hnodup.1 (heq ▸ hr)
    rw [registered_eq_joined hx, List.filter_cons_of_neg (by simp), members, hx.members_eq]
    exact List.filter_congr fun r hr => by simp [hfresh r hr]
  finds_some := by
    intro id wanted r
    rw [lookup, Registry.lookup_eq_some_iff]
    simp only [find?_eq_some_iff hx hn]
    constructor
    · rintro ⟨⟨_, rfl, hr, rfl⟩, hkind⟩
      exact ⟨hr, rfl, hkind⟩
    · rintro ⟨hr, rfl, hkind⟩
      exact ⟨⟨_, rfl, hr, rfl⟩, hkind⟩
  finds_none := by
    intro id wanted
    rw [lookup, Registry.lookup_eq_none_iff]
    exact forall₂_congr fun i _ => Assoc.lookup_eq_none_iff_keys _ _
  mismatch := by
    intro id wanted fault
    rw [lookup, Registry.lookup_eq_error_iff]
    simp only [find?_eq_some_iff hx hn]
    constructor
    · rintro ⟨_, r, kind, rfl, ⟨hr, rfl⟩, hrest⟩
      exact ⟨r, hr, kind, rfl, hrest⟩
    · rintro ⟨r, hr, kind, rfl, hrest⟩
      exact ⟨_, r, kind, rfl, ⟨hr, rfl⟩, hrest⟩

end

/-! ## After runs -/

/-- After a run that gives no other ids to what is registered, every machine is in order: it registers exactly what the
run added to it, in this order. -/
theorem registers_run (journal : Journal) (operations : List Operation) (m : MachineRef)
    (hkeeps : KeepsIdsRun { journal } operations)
    (hm : m.index < (operations.foldl perform { journal }).machines.length) :
    Registers (operations.foldl perform { journal }) m (addedTo { journal } m operations) := by
  have hc := Reachable.consistent ⟨journal, operations, rfl⟩
  obtain ⟨hown, hn⟩ := steady_run operations hkeeps (consistent_empty journal) (steady_empty journal) m
  rw [← joined_run_start]
  exact registers_joined (hc.machine m hm) hn hown

/-- A run in which machines share their entities: one of them stops halfway through an addition, and one is extracted
after a state was given a number by hand. -/
def sharing : List Operation :=
  filling "m" [{ id := "s", detail := .state [] [] none }, { id := "t", detail := .state [] [] none },
    { id := "go", detail := .event none }, { id := "k", detail := .bundle },
    { id := "a", detail := .arc { fromId := some "s", toId := some "t", eventId := some "go" } }] ++
  [.start { id := some "n" }, .add ⟨1⟩ [.entity ⟨2⟩, .entity ⟨1⟩, .entity ⟨2⟩, .entity ⟨3⟩],
    .edit ⟨1⟩ { apply := fun e => e.withNumber (some 9), kind_apply := fun e => e.kind_withNumber _ },
    .renumber ⟨1⟩, .extract ⟨0⟩ []]

theorem registers_run_sharing :
    KeepsIdsRun {} sharing ∧ Registers (sharing.foldl perform {}) ⟨1⟩ [⟨2⟩, ⟨1⟩] ∧
      Registers (sharing.foldl perform {}) ⟨2⟩ [⟨3⟩, ⟨1⟩, ⟨2⟩, ⟨8⟩, ⟨4⟩] := by
  have hkeeps : KeepsIdsRun {} sharing := by decide +kernel
  have hfailed : addedTo {} ⟨1⟩ sharing = [⟨2⟩, ⟨1⟩] := by decide +kernel
  have hextracted : addedTo {} ⟨2⟩ sharing = [⟨3⟩, ⟨1⟩, ⟨2⟩, ⟨8⟩, ⟨4⟩] := by decide +kernel
  exact ⟨hkeeps, hfailed ▸ registers_run {} sharing ⟨1⟩ hkeeps (by decide +kernel),
    hextracted ▸ registers_run {} sharing ⟨2⟩ hkeeps (by decide +kernel)⟩

end Workspace

end StateMachine
