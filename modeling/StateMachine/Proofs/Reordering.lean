import StateMachine.Proofs.History
import StateMachine.Proofs.Mirroring
import StateMachine.Proofs.Operations

/-!
# Adding the same in another order

Two new machines of one id that are asked to take the same entities, each in its own order, both take them or both
refuse. What a check finds is then the same.
-/

namespace StateMachine

/-- A machine of this id can take these entities, if it holds no others. -/
structure Enrollable (id : Option String) (entities : List Entity) : Prop where
  holds : ∀ e ∈ entities, Machine.holds e.kind = true
  distinct : (entities.map (·.id)).Nodup
  free : ∀ e ∈ entities, e.id ≠ allStateId ∧ id ≠ some e.id

theorem Enrollable.of_perm {id : Option String} {entities entities' : List Entity} (hperm : entities'.Perm entities)
    (h : Enrollable id entities) : Enrollable id entities' where
  holds e he := h.holds e (hperm.subset he)
  distinct := (hperm.map _).nodup_iff.mpr h.distinct
  free e he := h.free e (hperm.subset he)

namespace Workspace

/-- A machine has this id, and holds entities that say this and were added in this order. -/
structure Keeps (ws : Workspace) (m : MachineRef) (id : Option String) (entities : List Entity) : Prop where
  inRange : m.index < ws.machines.length
  id_eq : (ws.machine m).head.id = id
  reserved_eq : (ws.machine m).registry.reserved = id
  allState_eq : ws.contentOf (ws.machine m).allState = Entity.named { id := allStateId, detail := .state [] [] none }
  roll_eq : ws.roll m = entities.map fun e => (e.id, e)

/-! ## New machines -/

theorem keeps_newMachine {ws ws' : Workspace} {m : MachineRef} {head : Head} (h : ws.newMachine head = (ws', .ok m)) :
    ws'.Keeps m head.id [] := by
  rcases newMachine_cases ws head with ⟨fault, heq, _⟩ | ⟨_, _, heq⟩
  · cases (Prod.mk.inj (heq.symm.trans h)).2
  · obtain ⟨rfl, hm⟩ := Prod.mk.inj (heq.symm.trans h)
    obtain rfl : ws.nextMachine = m := Except.ok.inj hm
    have hnew := machine_founding_next ws head
    have hall := entity_newEntity_new ws ws.nextAllState
    refine ⟨by simp [nextMachine, founding, newEntity], ?_, ?_, ?_, ?_⟩
    · rw [hnew]
    · rw [hnew]
    · rw [hnew]
      exact congrArg Entity.content hall
    · rw [roll, hnew]
      rfl

/-- Other new machines do not matter. -/
theorem Keeps.newMachine {ws : Workspace} {m : MachineRef} {id : Option String} {entities : List Entity}
    (h : ws.Keeps m id entities) (hc : ws.Consistent) (head : Head) : (ws.newMachine head).1.Keeps m id entities := by
  rcases newMachine_cases ws head with ⟨_, heq, _⟩ | ⟨_, _, heq⟩
  · rwa [heq]
  · have hx := hc.machine m h.inRange
    have hmachine : (ws.founding head).machine m = ws.machine m :=
      machine_founding_ne ws head m fun hnext => Nat.lt_irrefl _ (hnext ▸ h.inRange)
    have hcontent : ∀ entry ∈ (ws.machine m).registry.entries,
        (ws.founding head).contentOf entry.2 = ws.contentOf entry.2 := fun entry hentry =>
      congrArg Entity.content (entity_founding_old ws head entry.2 (hx.known entry hentry))
    rw [heq]
    refine ⟨?_, ?_, ?_, ?_, ?_⟩
    · rw [length_machines_founding]
      exact Nat.lt_succ_of_lt h.inRange
    · rw [hmachine, h.id_eq]
    · rw [hmachine, h.reserved_eq]
    · rw [hmachine, hcontent _ hx.allState_mem, h.allState_eq]
    · rw [← h.roll_eq, roll, hmachine]
      exact List.map_congr_left fun entry hentry =>
        congrArg (Prod.mk entry.1) (hcontent entry (Machine.mem_entries_of_added entry hentry))

/-! ## Machines after additions -/

section
variable (ws : Workspace) (m : MachineRef) (refs : List EntityRef)

@[simp]
theorem contentOf_takingAll : (ws.takingAll m refs).contentOf = ws.contentOf := by
  funext r
  refine entity_takingAll_congr ws m refs Entity.content (fun e => ?_) r
  rw [Entity.content, Entity.unnumbered_withMachine]
  rfl

end

section
variable {ws : Workspace} {m n : MachineRef} {id : Option String} {entities : List Entity}

theorem Keeps.takingAll (h : ws.Keeps m id entities) (hc : ws.Consistent) (refs : List EntityRef) :
    (ws.takingAll m refs).Keeps m id (entities ++ refs.map ws.contentOf) := by
  have hmachine := machine_takingAll_self ws m refs h.inRange
  refine ⟨by simpa using h.inRange, ?_, ?_, ?_, ?_⟩
  · rw [hmachine]
    exact h.id_eq
  · rw [hmachine]
    exact h.reserved_eq
  · rw [hmachine, contentOf_takingAll]
    exact h.allState_eq
  · have hentries : (ws.machine m).registry.entries ≠ [] := by
      rw [(hc.machine m h.inRange).entries_eq]
      simp
    rw [List.map_append, ← h.roll_eq, roll, roll, hmachine, contentOf_takingAll, Machine.added, Machine.added,
      List.tail_append_of_ne_nil hentries, List.map_append, List.map_map, List.map_map]
    simp [Function.comp_def]

/-- Additions to another machine do not matter. -/
theorem Keeps.takingAll_ne (h : ws.Keeps m id entities) (hne : m ≠ n) (refs : List EntityRef) :
    (ws.takingAll n refs).Keeps m id entities := by
  have hmachine := machine_takingAll_ne ws n refs m hne
  refine ⟨by simpa using h.inRange, ?_, ?_, ?_, ?_⟩
  · rw [hmachine, h.id_eq]
  · rw [hmachine, h.reserved_eq]
  · rw [hmachine, contentOf_takingAll, h.allState_eq]
  · rw [roll, hmachine, contentOf_takingAll, ← roll, h.roll_eq]

/-- Whether an empty machine can take entities depends on what they say. -/
theorem Keeps.admits_iff (h : ws.Keeps m id []) (hc : ws.Consistent) (refs : List EntityRef) :
    ws.Admits m refs ↔ Enrollable id (refs.map ws.contentOf) := by
  have hids : (refs.map ws.contentOf).map (·.id) = ws.idsOf refs := by
    simp [idsOf]
  have htaken : ws.takenIds m = [allStateId] := by
    have hnone : (ws.machine m).added = [] := List.map_eq_nil_iff.mp h.roll_eq
    rw [takenIds, (hc.machine m h.inRange).entries_eq, hnone]
    rfl
  constructor
  · intro hadmits
    refine ⟨?_, hids ▸ hadmits.distinct, ?_⟩
    · exact List.forall_mem_map.mpr fun r hr => by simpa using hadmits.holds r hr
    · refine List.forall_mem_map.mpr fun r hr => ?_
      have hid : (ws.entity r).id ∈ ws.idsOf refs := List.mem_map_of_mem hr
      have hfree := hadmits.free _ hid
      have hallowed := hadmits.allowed _ hid
      rw [htaken, List.mem_singleton] at hfree
      rw [h.reserved_eq] at hallowed
      simpa using ⟨hfree, hallowed⟩
  · intro henroll
    have hfree := List.forall_mem_map.mp henroll.free
    refine ⟨?_, hids ▸ henroll.distinct, ?_, ?_⟩
    · exact fun r hr => by simpa using henroll.holds _ (List.mem_map_of_mem hr)
    · refine List.forall_mem_map.mpr fun r hr => ?_
      rw [htaken, List.mem_singleton]
      simpa using (hfree r hr).1
    · refine List.forall_mem_map.mpr fun r hr => ?_
      rw [h.reserved_eq]
      simpa using (hfree r hr).2

theorem Keeps.mirrors {entities' : List Entity} (hm : ws.Keeps m id entities) (hn : ws.Keeps n id entities')
    (hc : ws.Consistent) (hperm : entities'.Perm entities) : ws.Mirrors m n where
  consistent := hc.machine m hm.inRange
  consistent' := hc.machine n hn.inRange
  id_eq := hn.id_eq.trans hm.id_eq.symm
  allState_eq := hn.allState_eq.trans hm.allState_eq.symm
  roll_perm := by
    rw [hm.roll_eq, hn.roll_eq]
    exact hperm.map _

end

/-- Two empty machines of one id that are asked to take the same entities, in any order each, both take all of them or
both fail. If they take them, then checks find the same. -/
theorem sameFindings_of_perm {ws : Workspace} {m n : MachineRef} {id : Option String} (hrun : ws.Reachable)
    (hm : ws.Keeps m id []) (hn : ws.Keeps n id []) (hne : m ≠ n) (refs refs' : List EntityRef)
    (hperm : (refs'.map ws.contentOf).Perm (refs.map ws.contentOf)) :
    let first := ws.add m (refs.map .entity)
    let second := first.1.add n (refs'.map .entity)
    (first.2 = .ok () ↔ second.2 = .ok ()) ∧ (first.2 = .ok () → second.1.SameFindings m n) := by
  intro first second
  have hc := hrun.consistent
  have hc₁ : first.1.Consistent := consistent_add ws m _ hc
  have hc₂ : second.1.Consistent := consistent_add first.1 n _ hc₁
  -- Even an addition that fails leaves the other machine empty, and what entities say.
  obtain ⟨taken, hfirst⟩ : ∃ taken, first.1 = ws.takingAll m taken := ⟨_, fst_add ws m _⟩
  have hn₁ : first.1.Keeps n id [] := hfirst ▸ hn.takingAll_ne hne.symm taken
  have hcontent : first.1.contentOf = ws.contentOf := by rw [hfirst, contentOf_takingAll]
  have hok : first.2 = .ok () ↔ Enrollable id (refs.map ws.contentOf) :=
    (add_ok_iff ws m refs hm.inRange).trans (hm.admits_iff hc refs)
  have hok' : second.2 = .ok () ↔ Enrollable id (refs'.map ws.contentOf) := by
    rw [← hcontent]
    exact (add_ok_iff first.1 n refs' hn₁.inRange).trans (hn₁.admits_iff hc₁ refs')
  have hboth : first.2 = .ok () ↔ second.2 = .ok () :=
    hok.trans (Iff.trans ⟨.of_perm hperm, .of_perm hperm.symm⟩ hok'.symm)
  refine ⟨hboth, fun htaken => ?_⟩
  have hadd := add_of_admits ws m refs hm.inRange ((add_ok_iff ws m refs hm.inRange).mp htaken)
  have hadd' := add_of_admits first.1 n refs' hn₁.inRange
    ((add_ok_iff first.1 n refs' hn₁.inRange).mp (hboth.mp htaken))
  have hm₁ : first.1.Keeps m id (refs.map ws.contentOf) := (congrArg Prod.fst hadd) ▸ hm.takingAll hc refs
  have hm₂ : second.1.Keeps m id (refs.map ws.contentOf) := (congrArg Prod.fst hadd') ▸ hm₁.takingAll_ne hne refs'
  have hn₂ : second.1.Keeps n id (refs'.map ws.contentOf) :=
    hcontent ▸ (congrArg Prod.fst hadd') ▸ hn₁.takingAll hc₁ refs'
  exact (hm₂.mirrors hn₂ hc₂ hperm).sameFindings

/-- What leads to entities that are in no machine: two states with one constant, an event, an arc to nowhere, and another
one by the same exit. -/
def gathering : List Operation :=
  [.make { id := "s-1", detail := .state [] [] none }, .make { id := "s_1", detail := .state [] [] none },
   .make { id := "go", detail := .event none },
   .make { id := "a", detail := .arc { fromId := some "s-1", toId := some "gone", eventId := some "go" } },
   .make { id := "b", detail := .arc { fromId := some "s-1", toId := some "s_1", eventId := some "go" } }]

/-- These entities and so many new machines of one id. -/
def alongside (n : Nat) : Workspace :=
  (gathering ++ List.replicate n (Operation.start { id := some "m" })).foldl perform {}

theorem sameFindings_of_perm_alongside :
    let refs : List EntityRef := [⟨0⟩, ⟨1⟩, ⟨2⟩, ⟨3⟩, ⟨4⟩]
    let first := (alongside 2).add ⟨0⟩ (refs.map .entity)
    let second := first.1.add ⟨1⟩ (refs.reverse.map .entity)
    first.2 = .ok () ∧ second.2 = .ok () ∧ second.1.SameFindings ⟨0⟩ ⟨1⟩ := by
  intro refs first second
  have hreach : ∀ n, (alongside n).Reachable := fun n => ⟨{}, _, rfl⟩
  have hone : (alongside 0).newMachine { id := some "m" } = (alongside 1, .ok ⟨0⟩) := rfl
  have htwo : (alongside 1).newMachine { id := some "m" } = (alongside 2, .ok ⟨1⟩) := rfl
  have hm : (alongside 2).Keeps ⟨0⟩ (some "m") [] :=
    (keeps_newMachine hone).newMachine (hreach 1).consistent { id := some "m" }
  obtain ⟨hboth, hsame⟩ := sameFindings_of_perm (hreach 2) hm (keeps_newMachine htwo) (by decide) refs refs.reverse
    (refs.reverse_perm.map _)
  have hok : first.2 = .ok () := ok_of_toOption (by decide +kernel)
  exact ⟨hok, hboth.mp hok, hsame hok⟩

end Workspace

end StateMachine
