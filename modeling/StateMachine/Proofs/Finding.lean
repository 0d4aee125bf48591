import StateMachine.Proofs.Colliding
import StateMachine.Proofs.Operations

/-!
# What a check finds

Each reference that does not resolve has an error of its own, in the order of the arcs. Each exit that several arcs share
has one after these, with all of its arcs. There are no other errors.
-/

namespace StateMachine.Workspace

/-! ## References -/

/-- The references of all arcs in their order: of each arc its origin, its target and its event. -/
def references (ws : Workspace) (m : MachineRef) : List (EntityRef × Role) :=
  (ws.members m .arc).flatMap fun r => [Role.origin, .target, .event].map fun role => (r, role)

/-- What can be wrong with the id in a role, and how it is put in words. -/
inductive Flaw (ws : Workspace) (m : MachineRef) (role : Role) : Option String → String → Prop
  | absent : Flaw ws m role none s!"no {role.label} (None)"
  | empty : Flaw ws m role (some "") s!"no {role.label} ('')"
  | unknown (id : String) (hne : id ≠ "") (hfound : (ws.machine m).registry.find? id = none) :
      Flaw ws m role (some id) s!"unknown {role.label} '{id}'"
  | mistaken (id : String) (found : EntityRef) (hne : id ≠ "")
      (hfound : (ws.machine m).registry.find? id = some found) (hkind : ws.kindOf found ≠ role.kind) :
      Flaw ws m role (some id) s!"{role.label} '{id}' names a {(ws.kindOf found).name}"

/-- The reference of an arc in a role has a flaw. -/
def Stray (ws : Workspace) (m : MachineRef) (x : EntityRef × Role) : Prop :=
  ∃ words, ws.Flaw m x.2 (x.2.reference (ws.entity x.1).transition) words

/-- The error names the arc and the field, and puts the flaw in words. -/
structure Finds (ws : Workspace) (m : MachineRef) (x : EntityRef × Role) (d : Diagnostic) : Prop where
  isError : d.isError = true
  context : d.context.take 2 = [("arc", .text (ws.entity x.1).id), ("field", .text x.2.name)]
  what : ∃ words, ws.Flaw m x.2 (x.2.reference (ws.entity x.1).transition) words ∧
    d.what = s!"{words} in arc '{(ws.entity x.1).id}'{(ws.entity x.1).whereText}"

/-- The error names a shared exit, and in its context the state and all the arcs of the exit in their order. -/
structure Lists (ws : Workspace) (group : (String × String) × List EntityRef) (d : Diagnostic) : Prop where
  isError : d.isError = true
  what : d.what = s!"multiple arcs exit from state {group.1.1} by event {group.1.2}"
  context : d.context =
    [("state", .text group.1.1), ("arcs", .list (group.2.map fun r => .text (ws.entity r).id))]

/-- Two arcs leave by the same id, on the same event and guard. -/
def SameExit (ws : Workspace) (r s : EntityRef) : Prop :=
  (ws.entity r).transition.fromId = (ws.entity s).transition.fromId ∧
    (ws.entity r).transition.eventId = (ws.entity s).transition.eventId ∧
      (ws.entity r).transition.guard = (ws.entity s).transition.guard

theorem exitOf_of_sameExit {ws : Workspace} {r s : EntityRef} (h : ws.SameExit r s) : ws.exitOf s = ws.exitOf r := by
  obtain ⟨hfrom, hevent, hguard⟩ := h
  rw [exitOf, exitOf, eventKey, eventKey, hfrom, hevent, hguard]

section
variable (ws : Workspace) (m : MachineRef)

theorem exists_flaw_iff (role : Role) (id : Option String) : (∃ words, ws.Flaw m role id words) ↔
    ∀ i found, id = some i → i ≠ "" → (ws.machine m).registry.find? i = some found → ws.kindOf found ≠ role.kind := by
  constructor
  · rintro ⟨words, h⟩ i found rfl hne hfound
    cases h with
    | empty => exact absurd rfl hne
    | unknown _ _ hnone =>
      rw [hnone] at hfound
      cases hfound
    | mistaken _ _ _ hother hkind =>
      rw [hother] at hfound
      exact Option.some.inj hfound ▸ hkind
  · intro h
    cases id with
    | none => exact ⟨_, .absent⟩
    | some i =>
      by_cases hne : i = ""
      · subst hne
        exact ⟨_, .empty⟩
      · cases hfound : (ws.machine m).registry.find? i with
        | none => exact ⟨_, .unknown i hne hfound⟩
        | some found => exact ⟨_, .mistaken i found hne hfound (h i found rfl hne hfound)⟩

instance : DecidablePred (ws.Stray m) := fun x =>
  decidable_of_iff (∀ i ∈ x.2.reference (ws.entity x.1).transition, i ≠ "" →
      ∀ found ∈ (ws.machine m).registry.find? i, ws.kindOf found ≠ x.2.kind)
    (by
      rw [Stray, exists_flaw_iff]
      exact ⟨fun h i found hi hne hfound => h i hi hne found hfound,
        fun h i hi hne found hfound => h i found hi hne hfound⟩)

/-! ## Errors of references -/

theorem finds_of_referenceError (r : EntityRef) (role : Role) (d : Diagnostic)
    (h : ws.referenceError? m (ws.entity r) role = some d) : ws.Finds m (r, role) d := by
  unfold referenceError? at h
  dsimp only at h
  split at h
  case h_1 hid =>
    obtain rfl := Option.some.inj h
    exact ⟨rfl, rfl, _, hid ▸ .absent, rfl⟩
  case h_2 hid =>
    obtain rfl := Option.some.inj h
    exact ⟨rfl, rfl, _, hid ▸ .empty, rfl⟩
  case h_3 id hne hid =>
    split at h
    case h_1 hfound =>
      obtain rfl := Option.some.inj h
      exact ⟨rfl, rfl, _, hid ▸ .unknown id hne hfound, rfl⟩
    case h_2 found hfound =>
      split at h
      case isTrue => cases h
      case isFalse hkind =>
        obtain rfl := Option.some.inj h
        exact ⟨rfl, rfl, _, hid ▸ .mistaken id found hne hfound hkind, rfl⟩

theorem stray_iff (x : EntityRef × Role) :
    ws.Stray m x ↔ (ws.referenceError? m (ws.entity x.1) x.2).isSome := by
  constructor
  · rintro ⟨words, hflaw⟩
    unfold referenceError?
    generalize x.2.reference (ws.entity x.1).transition = id at hflaw
    cases hflaw with
    | absent => rfl
    | empty => rfl
    | unknown id hne hfound => simp [hfound]
    | mistaken id found hne hfound hkind => simp [hfound, hkind]
  · intro herror
    obtain ⟨d, hd⟩ := Option.isSome_iff_exists.mp herror
    obtain ⟨words, hflaw, _⟩ := (finds_of_referenceError ws m x.1 x.2 d hd).what
    exact ⟨words, hflaw⟩

/-- A reference without a flaw names an entity of the right kind. -/
theorem resolves_of_not_stray (r : EntityRef) (role : Role) (h : ¬ ws.Stray m (r, role)) :
    ∃ id found, role.reference (ws.entity r).transition = some id ∧
      (ws.machine m).registry.find? id = some found ∧ ws.kindOf found = role.kind := by
  rw [Stray, exists_flaw_iff] at h
  push Not at h
  obtain ⟨id, found, hid, _, hfound, hkind⟩ := h
  exact ⟨id, found, hid, hfound, hkind⟩

theorem forall₂_filterMap {α β : Type} (p : α → Prop) [DecidablePred p] (f : α → Option β) (R : α → β → Prop)
    (hp : ∀ x, p x ↔ (f x).isSome) (hR : ∀ x y, f x = some y → R x y) (xs : List α) :
    List.Forall₂ R (xs.filter p) (xs.filterMap f) := by
  induction xs with
  | nil => exact .nil
  | cons x rest ih =>
    cases hx : f x with
    | none =>
      have hnot : ¬ p x := by simp [hp, hx]
      rwa [List.filter_cons_of_neg (by simpa using hnot), List.filterMap_cons_none hx]
    | some y =>
      have hholds : p x := by simp [hp, hx]
      rw [List.filter_cons_of_pos (by simpa using hholds), List.filterMap_cons_some hx]
      exact .cons (hR x y hx) ih

/-- The errors of references, each with the reference that it is about. -/
theorem finds_references : List.Forall₂ (ws.Finds m) ((ws.references m).filter (ws.Stray m))
    ((ws.members m .arc).flatMap (ws.referenceErrors m)) := by
  have herrors : (ws.members m .arc).flatMap (ws.referenceErrors m) =
      (ws.references m).filterMap fun x => ws.referenceError? m (ws.entity x.1) x.2 := by
    rw [references, List.filterMap_flatMap]
    apply List.flatMap_congr
    intro r _
    rw [List.filterMap_map]
    rfl
  rw [herrors]
  exact forall₂_filterMap _ _ _ (ws.stray_iff m) (fun x d => ws.finds_of_referenceError m x.1 x.2 d) _

/-! ## Errors of exits -/

theorem exitKey?_eq_some_iff_stray (r : EntityRef) (key : String × String) :
    ws.exitKey? m r = some key ↔ ¬ ws.Stray m (r, .origin) ∧ ws.exitOf r = key := by
  rw [exitKey?_eq_some_iff, stray_iff, Option.not_isSome_iff_eq_none]

theorem lists_collisionError (group : (String × String) × List EntityRef) :
    ws.Lists group (ws.collisionError group.1 group.2) := by
  refine ⟨rfl, rfl, ?_⟩
  rw [collisionError, Value.ofTexts, List.map_map]
  rfl

/-- The errors of exits, each with the exit and the arcs that it is about. -/
theorem lists_collisions : List.Forall₂ ws.Lists (ws.collisions m)
    ((ws.collisions m).map fun group => ws.collisionError group.1 group.2) :=
  List.forall₂_map_right_iff.mpr (List.forall₂_same.mpr fun group _ => ws.lists_collisionError group)

/-- Two arcs from a state are reported together if their exits have one text. -/
theorem collide_of_exitOf_eq (r s : EntityRef) (hpair : [r, s].Sublist (ws.members m .arc))
    (horigin : ¬ ws.Stray m (r, .origin)) (horigin' : ¬ ws.Stray m (s, .origin)) (hexit : ws.exitOf s = ws.exitOf r) :
    ∃ group ∈ ws.collisions m, [r, s].Sublist group.2 := by
  have hgroup : [r, s].Sublist
      ((ws.members m .arc).filter fun t => ws.exitKey? m t = some (ws.exitOf r)) := by
    have hr := (ws.exitKey?_eq_some_iff_stray m r _).mpr ⟨horigin, rfl⟩
    have hs := (ws.exitKey?_eq_some_iff_stray m s _).mpr ⟨horigin', hexit⟩
    -- Both arcs pass the filter, and it keeps their order.
    have hkept := hpair.filter fun t => decide (ws.exitKey? m t = some (ws.exitOf r))
    rwa [List.filter_eq_self.mpr (by simp [hr, hs])] at hkept
  exact ⟨(ws.exitOf r, _), (ws.mem_collisions_iff m _ _).mpr ⟨hgroup.length_le, rfl⟩, hgroup⟩

theorem collide_of_sameExit (r s : EntityRef) (hpair : [r, s].Sublist (ws.members m .arc))
    (horigin : ¬ ws.Stray m (r, .origin)) (hsame : ws.SameExit r s) :
    ∃ group ∈ ws.collisions m, [r, s].Sublist group.2 := by
  refine ws.collide_of_exitOf_eq m r s hpair horigin ?_ (exitOf_of_sameExit hsame)
  rw [Stray, Role.reference] at horigin ⊢
  rwa [← hsame.1]

/-! ## All errors -/

/-- A check reports every reference that does not resolve, in order and each once; then every exit that is shared, in
ascending order and with all its arcs; and nothing else. Without errors all references resolve and all exits differ. -/
theorem check_finds (ws : Workspace) (m : MachineRef) :
    ∃ (found collided : List Diagnostic) (groups : List ((String × String) × List EntityRef)),
      (ws.check m).1.errors = found ++ collided ∧
      List.Forall₂ (ws.Finds m) ((ws.references m).filter (ws.Stray m)) found ∧
      List.Forall₂ ws.Lists groups collided ∧
      (groups.map fun group => exitRank group.1).Pairwise (· < ·) ∧
      (∀ key arcs, (key, arcs) ∈ groups ↔ 2 ≤ arcs.length ∧
        arcs = (ws.members m .arc).filter fun r => ¬ ws.Stray m (r, .origin) ∧ ws.exitOf r = key) ∧
      (∀ r s, [r, s].Sublist (ws.members m .arc) → ¬ ws.Stray m (r, .origin) → ws.SameExit r s →
        ∃ group ∈ groups, [r, s].Sublist group.2) ∧
      ((ws.check m).1.errors = [] →
        (∀ r ∈ ws.members m .arc, ∀ role : Role, ∃ id found, role.reference (ws.entity r).transition = some id ∧
          (ws.machine m).registry.find? id = some found ∧ ws.kindOf found = role.kind) ∧
        (ws.members m .arc).Pairwise fun r s => ¬ ws.SameExit r s) := by
  have herrors := congrArg Report.errors (check_eq_examine ws m)
  refine ⟨_, _, ws.collisions m, herrors, ws.finds_references m, ws.lists_collisions m, ws.ascending_collisions m, ?_,
    ws.collide_of_sameExit m, ?_⟩
  · intro key arcs
    simp only [mem_collisions_iff, exitKey?_eq_some_iff_stray]
  · intro hnone
    obtain ⟨hrefs, hexits⟩ := (isValid_iff ws m).mp (List.isEmpty_iff.mpr hnone)
    have hgood : ∀ r ∈ ws.members m .arc, ∀ role, ¬ ws.Stray m (r, role) := fun r hr role => by
      rw [stray_iff, hrefs r hr role]
      simp
    refine ⟨fun r hr role => ws.resolves_of_not_stray m r role (hgood r hr role), ?_⟩
    exact (List.pairwise_map.mp hexits).imp fun hne hsame => hne (exitOf_of_sameExit hsame).symm

end

/-- A machine with an arc from nowhere, one that enters an event, two from one state on one event, and one that enters the
empty id on an event that is not there. -/
def messy : Workspace := filled "m"
  [{ id := "s", detail := .state [] [] none }, { id := "go", detail := .event none },
   { id := "halt", detail := .event none },
   { id := "a", detail := .arc { fromId := none, toId := some "s", eventId := some "go" } },
   { id := "b", detail := .arc { fromId := some "s", toId := some "go", eventId := some "halt" } },
   { id := "c", detail := .arc { fromId := some "s", toId := some "s", eventId := some "go" } },
   { id := "d", detail := .arc { fromId := some "s", toId := some "#ALL", eventId := some "go" } },
   { id := "e", detail := .arc { fromId := some "s", toId := some "", eventId := some "gone" } }]

theorem check_finds_messy :
    ∃ (found collided : List Diagnostic) (groups : List ((String × String) × List EntityRef)),
      (messy.check ⟨0⟩).1.errors = found ++ collided ∧
      List.Forall₂ (messy.Finds ⟨0⟩) [(⟨4⟩, .origin), (⟨5⟩, .target), (⟨8⟩, .target), (⟨8⟩, .event)] found ∧
      List.Forall₂ messy.Lists groups collided ∧ ∃ group ∈ groups, [⟨6⟩, ⟨7⟩].Sublist group.2 := by
  obtain ⟨found, collided, groups, herrors, hfound, hcollided, _, _, hpairs, _⟩ := check_finds messy ⟨0⟩
  have hstray : (messy.references ⟨0⟩).filter (messy.Stray ⟨0⟩) =
      [(⟨4⟩, .origin), (⟨5⟩, .target), (⟨8⟩, .target), (⟨8⟩, .event)] := by decide +kernel
  rw [hstray] at hfound
  exact ⟨found, collided, groups, herrors, hfound, hcollided,
    hpairs ⟨6⟩ ⟨7⟩ (by decide +kernel) (by decide +kernel) ⟨rfl, rfl, rfl⟩⟩

end StateMachine.Workspace
