import StateMachine.Proofs.Resolving

/-!
# The order of the arcs that fire

Where the arcs of a machine point back to it, their origins are states of the machine, and the arcs come in the order
in which these were added.
-/

namespace StateMachine.Workspace

/-- The place of the state that an arc leaves. -/
def originRank (ws : Workspace) (m : MachineRef) (a : FiringArc) : Int :=
  ((ws.endpoints? (ws.firing a)).map fun p => ws.rankOf m p.1).getD 0

/-- The endpoints of an arc of a machine are what its registry holds under their ids. -/
theorem endpoints?_eq_some_iff (ws : Workspace) (m : MachineRef) (e : Entity) (h : e.machine = some m)
    (f t : EntityRef) : ws.endpoints? e = some (f, t) ↔
      ws.find m .state e.transition.fromId = .ok (some f) ∧ ws.find m .state e.transition.toId = .ok (some t) := by
  simp only [endpoints?, findFrom, h]
  constructor
  · intro heq
    split at heq
    case h_1 hf ht =>
      obtain ⟨rfl, rfl⟩ := Prod.mk.inj (Option.some.inj heq)
      exact ⟨hf, ht⟩
    case h_2 => cases heq
  · rintro ⟨hf, ht⟩
    rw [hf, ht]

section
variable {ws : Workspace} {m : MachineRef} (hx : (ws.machine m).Consistent ws.kindOf ws.entities.length)
  (hn : ws.Named m) (hb : ws.ArcsBelong m)

include hb in
theorem machine_of_mem_candidates (eventId : String) (raw : Bool) (states : List EntityRef) (k : ArcKey)
    (a : FiringArc) (h : (k, a) ∈ ws.candidates m eventId raw states) : (ws.firing a).machine = some m := by
  rcases candidates_cases ws m eventId raw states k a h with ⟨r, hr, _, _, rfl⟩ | ⟨_, w, hw, s, _, _, rfl, _⟩
  · exact hb r (List.mem_filter.mp hr.mem).1
  · exact hb w (List.mem_filter.mp (List.mem_filter.mp hw).1).1

include hb in
theorem endpoints_of_mem_found (eventId : String) (raw : Bool) (states : List EntityRef) (a : FiringArc)
    (h : a ∈ ws.found m eventId raw states) : ∃ f t, ws.endpoints? (ws.firing a) = some (f, t) ∧
      ws.find m .state (ws.firing a).transition.fromId = .ok (some f) ∧
      ws.find m .state (ws.firing a).transition.toId = .ok (some t) := by
  obtain ⟨⟨f, t⟩, hends⟩ := Option.isSome_iff_exists.mp (List.mem_filter.mp h).2
  obtain ⟨⟨k, b⟩, hmem, rfl⟩ := List.mem_map.mp (List.mem_filter.mp h).1
  have hmachine := machine_of_mem_candidates hb eventId raw states k b hmem
  exact ⟨f, t, hends, (endpoints?_eq_some_iff ws m _ hmachine f t).mp hends⟩

include hx hn hb

/-- The arcs that fire are the candidates with endpoints, sorted by the place of their origin. -/
theorem arcsForEvent_eq_ranked (eventId : String) (raw : Bool) :
    (ws.arcsForEvent m eventId raw).1 =
      sorted (byKey (ws.originRank m)) (ws.found m eventId raw (ws.members m .state)) := by
  rw [arcsForEvent_eq_sorted, states_eq_members hx hn]
  have hrank : ∀ a ∈ ws.found m eventId raw (ws.members m .state),
      (ws.renumber m).originNumber a = ws.originRank m a := by
    intro a ha
    obtain ⟨f, t, hends, hfrom, _⟩ := endpoints_of_mem_found hb eventId raw _ a ha
    have hsame : (ws.renumber m).endpoints? ((ws.renumber m).firing a) = ws.endpoints? (ws.firing a) := by
      rw [← endpoints?_firing_bare, bare_renumber, endpoints?_firing_bare]
    rw [originNumber_eq, originRank, hsame, hends]
    exact numberOf_renumber hx hn f ((findState_iff hx hn _ f).mp hfrom).1
  apply sorted_congr
  intro a ha b hb
  rw [byKey, byKey, hrank a ha, hrank b hb]

/-- Arcs with different keys that leave states, already in the order of these, fire as they stand. -/
theorem arcsForEvent_of_ordered (eventId : String) (raw : Bool)
    (hkeys : ((ws.arcsOn m eventId).map fun r => arcKey (ws.entity r)).Nodup)
    (hconcrete : ∀ r ∈ ws.arcsOn m eventId, (ws.entity r).leavesAll = false)
    (hends : ∀ r ∈ ws.arcsOn m eventId, (ws.endpoints? (ws.entity r)).isSome)
    (hsorted : (ws.arcsOn m eventId).Pairwise fun r s =>
      ws.originRank m (.declared r) ≤ ws.originRank m (.declared s)) :
    (ws.arcsForEvent m eventId raw).1 = (ws.arcsOn m eventId).map .declared := by
  have hkeyed : ws.keyedArcs (ws.arcsOn m eventId) =
      (ws.arcsOn m eventId).map fun r => (arcKey (ws.entity r), .declared r) := Assoc.bindAll_eq_map _ _ _ hkeys
  have hcandidates : ws.candidates m eventId raw (ws.members m .state) = ws.keyedArcs (ws.arcsOn m eventId) := by
    cases raw with
    | true => rfl
    | false =>
      have hnone : ws.wildcardsOn m eventId = [] :=
        List.filter_eq_nil_iff.mpr fun r hr => by simp [hconcrete r hr]
      have hall : ws.concreteArcs (ws.arcsOn m eventId) = ws.keyedArcs (ws.arcsOn m eventId) := by
        rw [concreteArcs, hkeyed, List.filter_eq_self]
        intro entry hentry
        obtain ⟨r, hr, rfl⟩ := List.mem_map.mp hentry
        simp [fst_arcKey_eq_iff, hconcrete r hr]
      rw [candidates, if_neg (by simp), hnone, hall]
      rfl
  have hfound : ws.found m eventId raw (ws.members m .state) = (ws.arcsOn m eventId).map .declared := by
    rw [found, hcandidates, hkeyed, List.map_map]
    refine List.filter_eq_self.mpr ?_
    intro a ha
    obtain ⟨r, hr, rfl⟩ := List.mem_map.mp ha
    exact hends r hr
  rw [arcsForEvent_eq_ranked hx hn hb, hfound]
  apply sorted_of_pairwise
  rw [List.pairwise_map]
  exact hsorted.imp fun hle => decide_eq_true hle

end

end StateMachine.Workspace
