import StateMachine.Proofs.Registering

/-!
# Enumerating states

Whoever enumerates the states of a machine gets them in the order in which they were added to it, numbered from 1,
whatever numbers they had before and whichever other machines share them. Enumerating them, listing them by id and
checking a machine do the same to a workspace: they number the states anew.
-/

namespace StateMachine

namespace Workspace

section
variable {ws : Workspace} {m : MachineRef} (hx : (ws.machine m).Consistent ws.kindOf ws.entities.length)
  (hn : ws.Named m)
include hx hn

/-- The numbers of the states are their places. -/
theorem map_number_renumber : (ws.members m .state).map (fun r => ((ws.renumber m).entity r).number) =
    (List.range' 1 (ws.members m .state).length).map fun n : Nat => some (n : Int) := by
  apply List.ext_getElem (by simp)
  intro i hi _
  rw [List.length_map] at hi
  have hmem : (ws.members m .state)[i] ∈ ws.members m .state := List.getElem_mem hi
  rw [List.getElem_map, number_renumber hx hn _ (Or.inr hmem), rankOf_member hx hn _ hmem,
    (nodup_members hx hn .state).idxOf_getElem, List.getElem_map, List.getElem_range', Nat.one_mul, Nat.add_comm]

/-- The state `#ALL` comes before all other states. -/
theorem rawStates_eq : (ws.rawStates m).1 = (ws.machine m).allState :: ws.members m .state := by
  have hnumber : ∀ r ∈ (ws.machine m).allState :: ws.members m .state, (ws.renumber m).numberOf r = ws.rankOf m r :=
    fun r hr => numberOf_renumber hx hn r (List.mem_cons.mp hr)
  rw [rawStates]
  dsimp only
  rw [members_of_bare_eq (bare_renumber ws m), machine_renumber]
  -- The state stands last before sorting, and its number -1 brings it to the front.
  refine sorted_of_perm (ws.renumber m).numberOf _ _ (List.perm_append_singleton _ _) ?_
  refine (pairwise_rankOf hx hn).imp_of_mem fun ha hb hlt => ?_
  rwa [hnumber _ ha, hnumber _ hb]

end

/-- The states of a machine as they are enumerated: these, numbered from 1, and the state `#ALL` before them with the
number -1. -/
structure Enumerates (ws : Workspace) (m : MachineRef) (concrete : List EntityRef) : Prop where
  states_eq : (ws.states m).1 = concrete
  states_numbered : concrete.map (fun r => ((ws.states m).2.entity r).number) =
    (List.range' 1 concrete.length).map fun n : Nat => some (n : Int)
  rawStates_eq : (ws.rawStates m).1 = (ws.machine m).allState :: concrete
  rawStates_numbered : ((ws.machine m).allState :: concrete).map (fun r => ((ws.rawStates m).2.entity r).number) =
    some (-1) :: (List.range' 1 concrete.length).map fun n : Nat => some (n : Int)

/-- After a run that gives no other ids to what is registered, the states of a machine are enumerated in the order in
which the run added them to it. -/
theorem enumerates_run (journal : Journal) (operations : List Operation) (m : MachineRef)
    (hkeeps : KeepsIdsRun { journal } operations)
    (hm : m.index < (operations.foldl perform { journal }).machines.length) :
    Enumerates (operations.foldl perform { journal }) m ((addedTo { journal } m operations).filter fun r =>
      (operations.foldl perform { journal }).kindOf r = .state) := by
  have hx := (Reachable.consistent ⟨journal, operations, rfl⟩).machine m hm
  obtain ⟨_, hn⟩ := steady_run operations hkeeps (consistent_empty journal) (steady_empty journal) m
  rw [← joined_run_start, joined, ← hx.members_eq]
  refine ⟨states_eq_members hx hn, map_number_renumber hx hn, rawStates_eq hx hn, ?_⟩
  rw [List.map_cons]
  congr 1
  · exact (number_renumber hx hn _ (Or.inl rfl)).trans (congrArg some (rankOf_allState _ m))
  · exact map_number_renumber hx hn

theorem enumerates_run_sharing :
    KeepsIdsRun {} sharing ∧ Enumerates (sharing.foldl perform {}) ⟨0⟩ [⟨1⟩, ⟨2⟩] ∧
      Enumerates (sharing.foldl perform {}) ⟨1⟩ [⟨2⟩, ⟨1⟩] := by
  have hkeeps : KeepsIdsRun {} sharing := by decide +kernel
  have hfirst : (addedTo {} ⟨0⟩ sharing).filter (fun r => (sharing.foldl perform {}).kindOf r = .state) =
      [⟨1⟩, ⟨2⟩] := by
    decide +kernel
  have hsecond : (addedTo {} ⟨1⟩ sharing).filter (fun r => (sharing.foldl perform {}).kindOf r = .state) =
      [⟨2⟩, ⟨1⟩] := by
    decide +kernel
  exact ⟨hkeeps, hfirst ▸ enumerates_run {} sharing ⟨0⟩ hkeeps (by decide +kernel),
    hsecond ▸ enumerates_run {} sharing ⟨1⟩ hkeeps (by decide +kernel)⟩

end Workspace

end StateMachine
