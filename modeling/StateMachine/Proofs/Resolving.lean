import StateMachine.Proofs.Numbering

/-!
# The arcs that an event finds

Declared arcs are bound to their keys one after the other. Those that leave `#ALL` are then taken out, and the arcs
derived from them fill what is left open. No two of the arcs that remain have one key.
-/

namespace StateMachine

theorem fst_arcKey_eq_iff (e : Entity) : (Workspace.arcKey e).1 = allStateId ↔ e.leavesAll = true := by
  rw [Workspace.arcKey, Entity.leavesAll]
  cases e.transition.fromId with
  | none => exact iff_of_false (show ¬ Text.upper "" = allStateId by decide +kernel) (by simp)
  | some id => simp

theorem fromId_ne_all (e : Entity) (h : e.leavesAll = false) : e.transition.fromId ≠ some allStateId := by
  intro hall
  rw [Entity.leavesAll, hall] at h
  exact absurd h (by decide +kernel)

@[simp]
theorem transition_derivedFor (arc s : Entity) : (arc.derivedFor s).transition =
    { arc.transition with
      fromId := some s.id
      toId := arc.transition.toId.map fun id => if Text.upper id = allStateId then s.id else id } := rfl

/-- The declared arc itself, where an arc that fires is one. -/
def FiringArc.ref? : FiringArc → Option EntityRef
  | .declared r => some r
  | .derived _ => none

theorem declared_mem_iff (arcs : List FiringArc) (r : EntityRef) :
    some r ∈ arcs.map FiringArc.ref? ↔ .declared r ∈ arcs := by
  rw [List.mem_map]
  constructor
  · rintro ⟨a, ha, heq⟩
    cases a with
    | declared s => rwa [← Option.some.inj heq]
    | derived e => cases heq
  · exact fun h => ⟨_, h, rfl⟩

instance (arcs : List FiringArc) (r : EntityRef) : Decidable (.declared r ∈ arcs) :=
  decidable_of_iff _ (declared_mem_iff arcs r)

namespace Workspace

/-! ## Arcs by key -/

section
variable (ws : Workspace)

theorem allStateArc?_eq_none_iff (m : MachineRef) (eventId : String) :
    ws.allStateArc? m eventId = none ↔ ws.wildcardsOn m eventId = [] := by
  rw [allStateArc?, List.find?_eq_none, wildcardsOn, arcsOn, List.filter_filter, List.filter_eq_nil_iff]
  simp only [Bool.and_comm]

/-- An arc that leaves `#ALL` with each state it may be derived for. -/
def derivations (wildcards states : List EntityRef) : List (EntityRef × EntityRef) :=
  wildcards.flatMap fun w => states.map fun s => (w, s)

def derivedKey (p : EntityRef × EntityRef) : ArcKey :=
  (Text.upper (ws.entity p.2).id, (ws.entity p.1).transition.guard)

def derivedArc (p : EntityRef × EntityRef) : FiringArc := .derived ((ws.entity p.1).derivedFor (ws.entity p.2))

theorem mem_derivations (wildcards states : List EntityRef) (p : EntityRef × EntityRef) :
    p ∈ derivations wildcards states ↔ p.1 ∈ wildcards ∧ p.2 ∈ states := by
  simp only [derivations, List.mem_flatMap, List.mem_map, Prod.ext_iff]
  constructor
  · rintro ⟨w, hw, s, hs, rfl, rfl⟩
    exact ⟨hw, hs⟩
  · exact fun h => ⟨p.1, h.1, p.2, h.2, rfl, rfl⟩

/-- Of the derivations for all states, those for one. -/
theorem filter_derivations (wildcards states : List EntityRef) (s : EntityRef) (hnodup : states.Nodup)
    (hs : s ∈ states) (p : EntityRef × EntityRef → Bool) :
    (derivations wildcards states).filter (fun d => p d && d.2 = s) =
      (wildcards.filter fun w => p (w, s)).map fun w => (w, s) := by
  induction wildcards with
  | nil => rfl
  | cons w rest ih =>
    have hstate : states.filter (· = s) = [s] := by
      rw [List.filter_eq, List.count_eq_one_of_mem hnodup hs]
      rfl
    have hone : (states.map fun t => (w, t)).filter (fun d => p d && d.2 = s) =
        ([s].filter fun t => p (w, t)).map fun t => (w, t) := by
      rw [← hstate, List.filter_filter, List.filter_map]
      rfl
    rw [derivations, List.flatMap_cons, List.filter_append, ← derivations, ih, hone]
    by_cases hp : p (w, s)
    · simp [hp]
    · simp [hp]

/-- The arcs on an event that do not leave `#ALL`, by key. -/
def concreteArcs (arcs : List EntityRef) : List (ArcKey × FiringArc) :=
  (ws.keyedArcs arcs).filter fun entry => entry.1.1 ≠ allStateId

/-- The candidates by key, with the states in a given order. -/
def candidates (m : MachineRef) (eventId : String) (raw : Bool) (states : List EntityRef) :
    List (ArcKey × FiringArc) :=
  if raw then ws.keyedArcs (ws.arcsOn m eventId)
  else Assoc.fill ws.derivedKey ws.derivedArc (derivations (ws.wildcardsOn m eventId) states)
    (ws.concreteArcs (ws.arcsOn m eventId))

theorem keyedArcs_eq (arcs : List EntityRef) :
    ws.keyedArcs arcs = Assoc.bindAll (fun r => arcKey (ws.entity r)) .declared arcs := rfl

/-- Erasing the key of each arc that leaves `#ALL` removes all that leaves `#ALL`. -/
theorem foldl_erase_eq (m : MachineRef) (eventId : String) :
    (ws.wildcardsOn m eventId).foldl
        (fun keyed w => Assoc.erase ((allStateId, (ws.entity w).transition.guard) : ArcKey) keyed)
        (ws.keyedArcs (ws.arcsOn m eventId)) = ws.concreteArcs (ws.arcsOn m eventId) := by
  have hfold : ∀ (wildcards : List EntityRef) (keyed : List (ArcKey × FiringArc)),
      wildcards.foldl (fun keyed w => Assoc.erase ((allStateId, (ws.entity w).transition.guard) : ArcKey) keyed) keyed =
        keyed.filter fun entry => wildcards.all fun w => !(entry.1 == (allStateId, (ws.entity w).transition.guard)) := by
    intro wildcards
    induction wildcards with
    | nil => intro keyed; simp
    | cons w rest ih =>
      intro keyed
      rw [List.foldl_cons, ih, Assoc.erase, List.filter_filter]
      apply List.filter_congr
      intro entry _
      rw [List.all_cons, Bool.and_comm]
  rw [hfold, concreteArcs]
  apply List.filter_congr
  intro entry hentry
  obtain ⟨r, hr, hkey, _⟩ := (Assoc.mem_bindAll_iff _ _ _ entry.1 entry.2).mp hentry
  rw [Bool.eq_iff_iff, List.all_eq_true]
  simp only [ne_eq, decide_not, Bool.not_eq_eq_eq_not, Bool.not_true, decide_eq_false_iff_not, beq_eq_false_iff_ne]
  constructor
  · intro hall hfst
    have hleaves : (ws.entity r).leavesAll = true := (fst_arcKey_eq_iff _).mp (hkey ▸ hfst)
    refine hall r (List.mem_filter.mpr ⟨hr.mem, hleaves⟩) (Prod.ext hfst ?_)
    rw [hkey]
    rfl
  · intro hfst w _ heq
    exact hfst (congrArg Prod.fst heq)

theorem expandWildcards_eq (m : MachineRef) (eventId : String) (states : List EntityRef) :
    ws.expandWildcards states (ws.wildcardsOn m eventId) (ws.keyedArcs (ws.arcsOn m eventId)) =
      ws.candidates m eventId false states := by
  rw [expandWildcards, foldl_erase_eq, candidates, derivations, Assoc.fill, List.foldl_flatMap]
  simp only [List.foldl_map]
  rfl

theorem candidateArcs_eq (m : MachineRef) (eventId : String) (raw : Bool) :
    ws.candidateArcs m eventId raw =
      (ws.candidates m eventId raw (ws.byNumber (ws.members m .state))).map (·.2) := by
  rw [candidateArcs]
  cases raw with
  | true => simp [candidates]
  | false =>
    simp only [Bool.or_false, List.isEmpty_iff]
    split
    case isTrue hnone => rw [← expandWildcards_eq, hnone]; rfl
    case isFalse => rw [expandWildcards_eq]

/-! ## Which arcs are candidates -/

/-- The arc counts: no later arc of the list has its key. -/
def Counts (arcs : List EntityRef) (r : EntityRef) : Prop := Assoc.IsLast (fun r => arcKey (ws.entity r)) arcs r

theorem mem_keyedArcs (arcs : List EntityRef) (k : ArcKey) (a : FiringArc) :
    (k, a) ∈ ws.keyedArcs arcs ↔ ∃ r, ws.Counts arcs r ∧ k = arcKey (ws.entity r) ∧ a = .declared r :=
  Assoc.mem_bindAll_iff _ _ _ k a

theorem mem_concreteArcs (arcs : List EntityRef) (k : ArcKey) (a : FiringArc) :
    (k, a) ∈ ws.concreteArcs arcs ↔
      ∃ r, ws.Counts arcs r ∧ (ws.entity r).leavesAll = false ∧ k = arcKey (ws.entity r) ∧ a = .declared r := by
  rw [concreteArcs, List.mem_filter, mem_keyedArcs, decide_eq_true_eq]
  constructor
  · rintro ⟨⟨r, hr, rfl, rfl⟩, hfst⟩
    rw [ne_eq, fst_arcKey_eq_iff, Bool.not_eq_true] at hfst
    exact ⟨r, hr, hfst, rfl, rfl⟩
  · rintro ⟨r, hr, hleaves, rfl, rfl⟩
    rw [ne_eq, fst_arcKey_eq_iff, Bool.not_eq_true]
    exact ⟨⟨r, hr, rfl, rfl⟩, hleaves⟩

theorem mem_keys_concreteArcs (arcs : List EntityRef) (k : ArcKey) :
    k ∈ Assoc.keys (ws.concreteArcs arcs) ↔
      ∃ r ∈ arcs, (ws.entity r).leavesAll = false ∧ arcKey (ws.entity r) = k := by
  have hkeys : k ∈ Assoc.keys (ws.concreteArcs arcs) ↔ k ∈ Assoc.keys (ws.keyedArcs arcs) ∧ k.1 ≠ allStateId := by
    simp [concreteArcs, Assoc.keys]
  rw [hkeys, keyedArcs_eq, Assoc.mem_keys_bindAll]
  constructor
  · rintro ⟨⟨r, hr, rfl⟩, hfst⟩
    rw [ne_eq, fst_arcKey_eq_iff, Bool.not_eq_true] at hfst
    exact ⟨r, hr, hfst, rfl⟩
  · rintro ⟨r, hr, hleaves, rfl⟩
    rw [ne_eq, fst_arcKey_eq_iff, Bool.not_eq_true]
    exact ⟨⟨r, hr, rfl⟩, hleaves⟩

variable (m : MachineRef) (eventId : String) (raw : Bool) (states : List EntityRef)

theorem nodup_keys_candidates : (Assoc.keys (ws.candidates m eventId raw states)).Nodup := by
  have hkeyed : (Assoc.keys (ws.keyedArcs (ws.arcsOn m eventId))).Nodup := Assoc.nodup_keys_bindAll _ _ _
  cases raw with
  | true => exact hkeyed
  | false => exact Assoc.nodup_keys_fill _ _ _ _ (hkeyed.sublist (List.filter_sublist.map _))

/-- A candidate is a declared arc that counts, or it is derived for a state whose key is open. -/
theorem candidates_cases (k : ArcKey) (a : FiringArc) (h : (k, a) ∈ ws.candidates m eventId raw states) :
    (∃ r, ws.Counts (ws.arcsOn m eventId) r ∧ (raw = true ∨ (ws.entity r).leavesAll = false) ∧
      k = arcKey (ws.entity r) ∧ a = .declared r) ∨
    (raw = false ∧ ∃ w ∈ ws.wildcardsOn m eventId, ∃ s ∈ states,
      k = ws.derivedKey (w, s) ∧ a = ws.derivedArc (w, s) ∧
      k ∉ Assoc.keys (ws.concreteArcs (ws.arcsOn m eventId))) := by
  cases raw with
  | true =>
    obtain ⟨r, hr, hk, ha⟩ := (mem_keyedArcs ws _ k a).mp h
    exact Or.inl ⟨r, hr, Or.inl rfl, hk, ha⟩
  | false =>
    rcases (Assoc.mem_fill_iff _ _ _ _ _).mp h with h | ⟨⟨w, s⟩, hp, hopen, heq⟩
    · obtain ⟨r, hr, hleaves, hk, ha⟩ := (mem_concreteArcs ws _ k a).mp h
      exact Or.inl ⟨r, hr, Or.inr hleaves, hk, ha⟩
    · obtain ⟨rfl, rfl⟩ := Prod.mk.inj heq
      obtain ⟨hw, hs⟩ := (mem_derivations _ _ _).mp hp.mem
      exact Or.inr ⟨rfl, w, hw, s, hs, rfl, rfl, hopen⟩

theorem key_of_mem_candidates (k : ArcKey) (a : FiringArc) (h : (k, a) ∈ ws.candidates m eventId raw states) :
    arcKey (ws.firing a) = k := by
  rcases candidates_cases ws m eventId raw states k a h with ⟨r, _, _, rfl, rfl⟩ | ⟨_, w, _, s, _, rfl, rfl, _⟩
  · rfl
  · rfl

/-- A declared arc is a candidate exactly if it counts and does not leave `#ALL`, or counts as it stands. -/
theorem declared_mem_candidates (r : EntityRef) :
    .declared r ∈ (ws.candidates m eventId raw states).map (·.2) ↔
      ws.Counts (ws.arcsOn m eventId) r ∧ (raw = true ∨ (ws.entity r).leavesAll = false) := by
  constructor
  · intro h
    obtain ⟨⟨k, a⟩, hmem, ha⟩ := List.mem_map.mp h
    obtain rfl : a = .declared r := ha
    rcases candidates_cases ws m eventId raw states _ _ hmem with ⟨s, hs, hleaves, _, heq⟩ | ⟨_, w, _, s, _, _, heq, _⟩
    · obtain rfl := FiringArc.declared.inj heq
      exact ⟨hs, hleaves⟩
    · cases heq
  · rintro ⟨hcounts, hleaves⟩
    refine List.mem_map.mpr ⟨(arcKey (ws.entity r), .declared r), ?_, rfl⟩
    cases raw with
    | true => exact (mem_keyedArcs ws _ _ _).mpr ⟨r, hcounts, rfl, rfl⟩
    | false =>
      have hleaves := hleaves.resolve_left (by simp)
      have hdeclared := (mem_concreteArcs ws _ _ _).mpr ⟨r, hcounts, hleaves, rfl, rfl⟩
      exact (Assoc.mem_fill_iff _ _ _ _ _).mpr (Or.inl hdeclared)

end

/-! ## Which arcs fire -/

@[simp]
theorem candidates_bare (ws : Workspace) (m : MachineRef) (eventId : String) (raw : Bool) (states : List EntityRef) :
    ws.bare.candidates m eventId raw states = ws.candidates m eventId raw states := by
  have hkey : ws.bare.derivedKey = ws.derivedKey := by
    funext p
    simp only [derivedKey, entity_bare, Entity.id_unnumbered, Entity.transition_unnumbered]
  have harc : ws.bare.derivedArc = ws.derivedArc := by
    funext p
    simp only [derivedArc, entity_bare, Entity.derivedFor_unnumbered]
  simp only [candidates, concreteArcs, keyedArcs_bare, arcsOn_bare, wildcardsOn_bare, hkey, harc]

/-- The candidates whose endpoints are states, with the states in a given order. -/
def found (ws : Workspace) (m : MachineRef) (eventId : String) (raw : Bool) (states : List EntityRef) :
    List FiringArc :=
  ((ws.candidates m eventId raw states).map (·.2)).filter fun a => (ws.endpoints? (ws.firing a)).isSome

@[simp]
theorem found_bare (ws : Workspace) (m : MachineRef) (eventId : String) (raw : Bool) (states : List EntityRef) :
    ws.bare.found m eventId raw states = ws.found m eventId raw states := by
  simp only [found, candidates_bare, endpoints?_firing_bare]

theorem originNumber_eq (ws : Workspace) (a : FiringArc) :
    ws.originNumber a = ((ws.endpoints? (ws.firing a)).map fun p => ws.numberOf p.1).getD 0 := by
  rw [originNumber, originNumber?]
  cases ws.endpoints? (ws.firing a) <;> rfl

theorem arcsForEvent_eq_sorted (ws : Workspace) (m : MachineRef) (eventId : String) (raw : Bool) :
    (ws.arcsForEvent m eventId raw).1 =
      sorted (byKey (ws.renumber m).originNumber) (ws.found m eventId raw (ws.states m).1) := by
  have hfound : (ws.renumber m).found m eventId raw (ws.states m).1 = ws.found m eventId raw (ws.states m).1 := by
    rw [← found_bare, bare_renumber, found_bare]
  rw [← hfound, found, arcsForEvent, resolve]
  dsimp only
  rw [List.partition_eq_filter_filter, candidateArcs_eq]
  rfl

theorem mem_arcsForEvent_iff (ws : Workspace) (m : MachineRef) (eventId : String) (raw : Bool) (a : FiringArc) :
    a ∈ (ws.arcsForEvent m eventId raw).1 ↔ a ∈ ws.found m eventId raw (ws.states m).1 := by
  rw [arcsForEvent_eq_sorted, mem_sorted]

/-- An arc that fires is a candidate, and its endpoints are states. -/
theorem candidate_of_mem_arcsForEvent (ws : Workspace) (m : MachineRef) (eventId : String) (raw : Bool)
    (a : FiringArc) (h : a ∈ (ws.arcsForEvent m eventId raw).1) :
    (∃ k, (k, a) ∈ ws.candidates m eventId raw (ws.states m).1) ∧ (ws.endpoints? (ws.firing a)).isSome := by
  obtain ⟨hcandidate, hends⟩ := List.mem_filter.mp ((mem_arcsForEvent_iff ws m eventId raw a).mp h)
  obtain ⟨⟨k, b⟩, hmem, rfl⟩ := List.mem_map.mp hcandidate
  exact ⟨⟨k, hmem⟩, hends⟩

end Workspace

end StateMachine
