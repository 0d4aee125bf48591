import StateMachine.Proofs.Ordering

/-!
# What a check without errors says

All references of arcs resolve, and no two arcs leave one state on the same event and guard.
-/

namespace StateMachine.Workspace

theorem isValid_check_iff (ws : Workspace) (m : MachineRef) : (ws.check m).1.isValid = true ↔ ws.errors m = [] := by
  rw [check_eq_examine]
  exact List.isEmpty_iff

/-- An arc has no error in a role if it names an entity of the kind that the role asks for, and not by the empty id. -/
theorem referenceError?_eq_none_iff (ws : Workspace) (m : MachineRef) (arc : Entity) (role : Role) :
    ws.referenceError? m arc role = none ↔
      (∃ s, ws.find m role.kind (role.reference arc.transition) = .ok (some s)) ∧
        role.reference arc.transition ≠ some "" := by
  unfold referenceError? find lookup Registry.lookup
  dsimp only
  split
  case h_1 hnone => simp [hnone]
  case h_2 hempty => simp [hempty]
  case h_3 id hne hid =>
    rw [hid]
    cases hfound : (ws.machine m).registry.find? id with
    | none => simp [hfound]
    | some s =>
      have hkind : (ws.kindOf s).name = role.kind.name ↔ ws.kindOf s = role.kind :=
        ⟨Kind.name_injective, fun h => by rw [h]⟩
      by_cases hs : ws.kindOf s = role.kind
      · simpa [hfound, hs] using hne
      · simp [hfound, hs, hkind]

/-- What no two arcs may share: the origin, and the event with the guard. -/
def exitOf (ws : Workspace) (r : EntityRef) : String × String :=
  ((ws.entity r).transition.fromId.getD "", eventKey (ws.entity r).transition)

/-- All references of arcs resolve, and exits differ. -/
structure Sound (ws : Workspace) (m : MachineRef) : Prop where
  refers : ∀ r ∈ ws.members m .arc, ∀ role : Role,
    ∃ s, ws.find m role.kind (role.reference (ws.entity r).transition) = .ok (some s)
  exits : ((ws.members m .arc).map ws.exitOf).Nodup

theorem map_filter_keyed {κ α : Type} [BEq κ] [LawfulBEq κ] [DecidableEq κ] (key? : α → Option κ) (k : κ)
    (xs : List α) :
    ((xs.filterMap fun x => (key? x).map fun key => (key, x)).filter (·.1 == k)).map (·.2) =
      xs.filter fun x => key? x = some k := by
  induction xs with
  | nil => rfl
  | cons x rest ih =>
    cases hx : key? x with
    | none => simp [hx, ih]
    | some key => by_cases hk : key = k <;> simp [hx, hk, ih]

section
variable (ws : Workspace) (m : MachineRef)

theorem exitKey?_eq_some_iff (r : EntityRef) (key : String × String) : ws.exitKey? m r = some key ↔
    ws.referenceError? m (ws.entity r) .origin = none ∧ ws.exitOf r = key := by
  unfold exitKey?
  cases herror : ws.referenceError? m (ws.entity r) .origin with
  | none => simp [herror, exitOf]
  | some d => simp [herror]

/-- There is a group for each exit that several arcs have, and it holds all of these. -/
theorem mem_collisions_iff (key : String × String) (arcs : List EntityRef) : (key, arcs) ∈ ws.collisions m ↔
    2 ≤ arcs.length ∧ arcs = (ws.members m .arc).filter fun r => ws.exitKey? m r = some key := by
  unfold collisions
  rw [mem_sorted, List.mem_filter, List.mem_map, and_comm, decide_eq_true_iff]
  refine and_congr_right fun (hshared : 2 ≤ arcs.length) => ⟨?_, ?_⟩
  · rintro ⟨⟨k, group⟩, hgroup, heq⟩
    obtain ⟨rfl, rfl⟩ := Prod.mk.inj heq
    rw [((Assoc.mem_groupBy_iff_ne_nil _ _ k group).mp hgroup).2, map_filter_keyed]
  · intro harcs
    have hkeyed := (map_filter_keyed (ws.exitKey? m) key (ws.members m .arc)).trans harcs.symm
    refine ⟨(key, _), (Assoc.mem_groupBy_iff_ne_nil _ _ key _).mpr ⟨fun hnone => ?_, rfl⟩, Prod.ext rfl hkeyed⟩
    rw [hnone] at hkeyed
    rw [← hkeyed] at hshared
    simp at hshared

/-- Where all origins are there, arcs collide exactly if they share their exit. -/
theorem collisions_eq_nil_iff (horigins : ∀ r ∈ ws.members m .arc, ws.referenceError? m (ws.entity r) .origin = none) :
    ws.collisions m = [] ↔ ((ws.members m .arc).map ws.exitOf).Nodup := by
  have hcount : ∀ key, ((ws.members m .arc).map ws.exitOf).count key =
      ((ws.members m .arc).filter fun r => ws.exitKey? m r = some key).length := by
    intro key
    rw [List.count, List.countP_map, List.countP_eq_length_filter]
    congr 1
    apply List.filter_congr
    intro r hr
    rw [Bool.eq_iff_iff, decide_eq_true_iff, exitKey?_eq_some_iff]
    simp [horigins r hr]
  rw [List.nodup_iff_count_le_one, List.eq_nil_iff_forall_not_mem]
  constructor
  · intro hnone key
    rw [hcount]
    by_contra hmany
    exact hnone (key, _) ((ws.mem_collisions_iff m key _).mpr ⟨by omega, rfl⟩)
  · rintro hone ⟨key, arcs⟩ hmem
    obtain ⟨hshared, rfl⟩ := (ws.mem_collisions_iff m key arcs).mp hmem
    have := hone key
    rw [hcount] at this
    omega

end

theorem referenceErrors_eq_nil_iff (ws : Workspace) (m : MachineRef) :
    (ws.members m .arc).flatMap (ws.referenceErrors m) = [] ↔
      ∀ r ∈ ws.members m .arc, ∀ role, ws.referenceError? m (ws.entity r) role = none := by
  rw [List.flatMap_eq_nil_iff]
  refine forall₂_congr fun r _ => ?_
  rw [referenceErrors, List.filterMap_eq_nil_iff]
  exact ⟨fun h role => h role (by cases role <;> simp), fun h role _ => h role⟩

/-- A machine is valid exactly if all references of its arcs resolve and no two arcs share their exit. -/
theorem isValid_iff (ws : Workspace) (m : MachineRef) : (ws.check m).1.isValid = true ↔
    (∀ r ∈ ws.members m .arc, ∀ role, ws.referenceError? m (ws.entity r) role = none) ∧
      ((ws.members m .arc).map ws.exitOf).Nodup := by
  rw [isValid_check_iff, errors, List.append_eq_nil_iff, List.map_eq_nil_iff, referenceErrors_eq_nil_iff]
  exact and_congr_right fun h => collisions_eq_nil_iff ws m fun r hr => h r hr .origin

theorem sound_of_valid (ws : Workspace) (m : MachineRef) (h : (ws.check m).1.isValid = true) : ws.Sound m := by
  obtain ⟨hrefs, hexits⟩ := (isValid_iff ws m).mp h
  exact ⟨fun r hr role => ((referenceError?_eq_none_iff ws m _ role).mp (hrefs r hr role)).1, hexits⟩

/-- On one event, arcs from one state have different guards. -/
theorem Sound.eq_of_same_exit {ws : Workspace} {m : MachineRef} (h : ws.Sound m) (r s : EntityRef)
    (hr : r ∈ ws.members m .arc) (hs : s ∈ ws.members m .arc)
    (hfrom : (ws.entity r).transition.fromId = (ws.entity s).transition.fromId)
    (hevent : (ws.entity r).transition.eventId = (ws.entity s).transition.eventId)
    (hguard : (ws.entity r).transition.guard = (ws.entity s).transition.guard) : r = s := by
  apply List.inj_on_of_nodup_map h.exits hr hs
  rw [exitOf, exitOf, eventKey, eventKey, hfrom, hevent, hguard]

/-- An arc of a valid machine leaves and enters states. -/
theorem endpoints_of_sound (ws : Workspace) (m : MachineRef) (h : ws.Sound m) (hb : ws.ArcsBelong m) (r : EntityRef)
    (hr : r ∈ ws.members m .arc) : (ws.endpoints? (ws.entity r)).isSome := by
  obtain ⟨f, hf⟩ := h.refers r hr .origin
  obtain ⟨t, ht⟩ := h.refers r hr .target
  rw [(endpoints?_eq_some_iff ws m _ (hb r hr) f t).mpr ⟨hf, ht⟩]
  rfl

/-- In a valid machine, so does an arc derived for a state that is found under its id. -/
theorem derived_endpoints_of_sound (ws : Workspace) (m : MachineRef) (h : ws.Sound m) (hb : ws.ArcsBelong m)
    (w s : EntityRef) (hw : w ∈ ws.members m .arc) (hself : ws.find m .state (some (ws.entity s).id) = .ok (some s)) :
    (ws.endpoints? (ws.firing (ws.derivedArc (w, s)))).isSome := by
  have hto : ∃ t, ws.find m .state ((ws.entity w).derivedFor (ws.entity s)).transition.toId = .ok (some t) := by
    obtain ⟨t, ht⟩ := h.refers w hw .target
    change ws.find m .state (ws.entity w).transition.toId = .ok (some t) at ht
    simp only [transition_derivedFor]
    cases hid : (ws.entity w).transition.toId with
    | none =>
      rw [hid] at ht
      exact ⟨t, ht⟩
    | some id =>
      rw [hid] at ht
      simp only [Option.map_some]
      split
      · exact ⟨s, hself⟩
      · exact ⟨t, ht⟩
  obtain ⟨t, ht⟩ := hto
  have hmachine : ((ws.entity w).derivedFor (ws.entity s)).machine = some m := hb w hw
  exact Option.isSome_iff_exists.mpr ⟨_, (endpoints?_eq_some_iff ws m _ hmachine s t).mpr ⟨hself, ht⟩⟩

/-- So does every candidate on an event. -/
theorem candidate_endpoints_of_sound {ws : Workspace} {m : MachineRef}
    (hx : (ws.machine m).Consistent ws.kindOf ws.entities.length) (hn : ws.Named m) (h : ws.Sound m)
    (hb : ws.ArcsBelong m) (eventId : String) (raw : Bool) (states : List EntityRef)
    (hstates : ∀ s ∈ states, s ∈ ws.members m .state) (a : FiringArc)
    (ha : a ∈ (ws.candidates m eventId raw states).map (·.2)) : (ws.endpoints? (ws.firing a)).isSome := by
  obtain ⟨⟨k, b⟩, hmem, rfl⟩ := List.mem_map.mp ha
  rcases candidates_cases ws m eventId raw states k b hmem with ⟨r, hr, _, _, rfl⟩ | ⟨_, w, hw, s, hs, _, rfl, _⟩
  · exact endpoints_of_sound ws m h hb r (List.mem_filter.mp hr.mem).1
  · have hself := (findState_iff hx hn _ s).mpr ⟨Or.inr (hstates s hs), rfl⟩
    exact derived_endpoints_of_sound ws m h hb w s (List.mem_filter.mp (List.mem_filter.mp hw).1).1 hself

end StateMachine.Workspace
