import StateMachine.Proofs.DeclaredArcs
import StateMachine.Proofs.Firing

/-!
# What an arc from `#ALL` covers

An arc from `#ALL` stands for one arc from every state, unless a state has arcs of its own with the guard. Whose arcs
these are is settled in upper case: an arc from a state keeps the derived arc from all whose ids differ from its own in
letter case only. A state that shares its id with none is left by exactly one arc.
-/

namespace StateMachine.Workspace

/-- The arcs that leave a state with a guard when an event is resolved. -/
def departing (ws : Workspace) (m : MachineRef) (eventId : String) (s : EntityRef) (guard : Option String) :
    List FiringArc :=
  (ws.arcsForEvent m eventId false).1.filter fun a =>
    (ws.arcsForEvent m eventId false).2.departure a = (some s, guard)

/-- The declared arcs on an event that do not leave `#ALL`, have the guard, and leave the state up to letter case. -/
def explicitArcs (ws : Workspace) (m : MachineRef) (eventId : String) (s : EntityRef) (guard : Option String) :
    List EntityRef :=
  (ws.arcsOn m eventId).filter fun r =>
    (ws.entity r).leavesAll = false ∧ arcKey (ws.entity r) = (Text.upper (ws.entity s).id, guard)

/-- A machine has registered the entity under its id, and under no other id. -/
structure Identified (ws : Workspace) (m : MachineRef) (r : EntityRef) : Prop where
  registered : ((ws.entity r).id, r) ∈ (ws.machine m).registry.entries
  only : ∀ entry ∈ (ws.machine m).registry.entries, entry.2 = r → entry.1 = (ws.entity r).id

instance (ws : Workspace) (m : MachineRef) (r : EntityRef) : Decidable (ws.Identified m r) :=
  decidable_of_iff (((ws.entity r).id, r) ∈ (ws.machine m).registry.entries ∧
      ∀ entry ∈ (ws.machine m).registry.entries, entry.2 = r → entry.1 = (ws.entity r).id)
    ⟨fun h => ⟨h.1, h.2⟩, fun h => ⟨h.registered, h.only⟩⟩

theorem mem_explicitArcs_iff (ws : Workspace) (m : MachineRef) (eventId : String) (s : EntityRef)
    (guard : Option String) (r : EntityRef) : r ∈ ws.explicitArcs m eventId s guard ↔
      r ∈ ws.arcsOn m eventId ∧ (ws.entity r).leavesAll = false ∧
        arcKey (ws.entity r) = (Text.upper (ws.entity s).id, guard) := by
  rw [explicitArcs, List.mem_filter, decide_eq_true_iff]

theorem derivedKey_not_mem_iff (ws : Workspace) (m : MachineRef) (eventId : String) (w s : EntityRef) :
    ws.derivedKey (w, s) ∉ Assoc.keys (ws.concreteArcs (ws.arcsOn m eventId)) ↔
      ws.explicitArcs m eventId s (ws.entity w).transition.guard = [] := by
  rw [mem_keys_concreteArcs, List.eq_nil_iff_forall_not_mem, not_exists]
  exact forall_congr' fun r => not_congr (mem_explicitArcs_iff ws m eventId s _ r).symm

/-- The first arc from `#ALL` with a guard is derived first, for the first state with an id. -/
theorem isFirst_derivations (ws : Workspace) (wildcards states : List EntityRef) (w s : EntityRef)
    (hw : Assoc.IsFirst (fun w => (ws.entity w).transition.guard) wildcards w)
    (hs : Assoc.IsFirst (fun s => Text.upper (ws.entity s).id) states s) :
    Assoc.IsFirst ws.derivedKey (derivations wildcards states) (w, s) := by
  obtain ⟨before, after, rfl, hguards⟩ := hw
  obtain ⟨earlier, later, rfl, hids⟩ := hs
  refine ⟨derivations before (earlier ++ s :: later) ++ earlier.map fun t => (w, t),
    (later.map fun t => (w, t)) ++ derivations after (earlier ++ s :: later), by simp [derivations], ?_⟩
  intro p hp hkey
  rcases List.mem_append.mp hp with hp | hp
  · exact hguards p.1 ((mem_derivations _ _ p).mp hp).1 (congrArg Prod.snd hkey)
  · obtain ⟨t, ht, rfl⟩ := List.mem_map.mp hp
    exact hids t ht (congrArg Prod.fst hkey)

/-! ## The arcs from one state -/

section
variable {ws : Workspace} {m : MachineRef} (hx : (ws.machine m).Consistent ws.kindOf ws.entities.length)
include hx

/-- Resolving the event changes no departure. -/
theorem departing_eq (eventId : String) (s : EntityRef) (guard : Option String) :
    ws.departing m eventId s guard =
      (ws.arcsForEvent m eventId false).1.filter fun a => ws.departure a = (some s, guard) := by
  have hbare := bare_arcsForEvent ws m eventId false
  apply List.filter_congr
  intro a ha
  rw [departure_of_bare_eq hbare a ((Agrees.of_bare_eq hbare hx).firing_of_mem_arcsForEvent eventId false a ha)]

variable {s : EntityRef} (hs : s ∈ ws.members m .state) (hid : ws.Identified m s)
include hs hid

theorem find_of_identified (id : Option String) :
    ws.find m .state id = .ok (some s) ↔ id = some (ws.entity s).id := by
  rw [find_eq_some_iff hx]
  constructor
  · rintro ⟨i, rfl, hentry, _⟩
    exact congrArg some (hid.only _ hentry rfl)
  · rintro rfl
    exact ⟨_, rfl, hid.registered, (known_of_mem_members hx .state s hs).2⟩

variable (hb : ws.ArcsBelong m)
include hb

theorem mem_departing_iff (eventId : String) (guard : Option String) (a : FiringArc) :
    a ∈ ws.departing m eventId s guard ↔ a ∈ (ws.arcsForEvent m eventId false).1 ∧
      (ws.firing a).transition.fromId = some (ws.entity s).id ∧ (ws.firing a).transition.guard = guard := by
  rw [departing_eq hx, List.mem_filter, decide_eq_true_iff, departure, Prod.mk.injEq]
  refine and_congr_right fun ha => and_congr_left fun _ => ?_
  have hfound := (mem_arcsForEvent_iff ws m eventId false a).mp ha
  obtain ⟨f, t, hends, hfrom, _⟩ := endpoints_of_mem_found hb eventId false _ a hfound
  rw [hends, Option.map_some, Option.some.injEq, ← find_of_identified hx hs hid, hfrom]
  simp

theorem length_departing_le (eventId : String) (guard : Option String) :
    (ws.departing m eventId s guard).length ≤ 1 := by
  -- All these arcs have one key, and no two arcs that fire do.
  have hnodup : ((ws.departing m eventId s guard).map fun a => arcKey (ws.firing a)).Nodup := by
    rw [departing_eq hx]
    exact (nodup_keys_arcsForEvent ws m eventId false).sublist (List.filter_sublist.map _)
  have hkeys : ∀ k ∈ (ws.departing m eventId s guard).map fun a => arcKey (ws.firing a),
      k = (Text.upper (ws.entity s).id, guard) := by
    intro k hk
    obtain ⟨a, ha, rfl⟩ := List.mem_map.mp hk
    obtain ⟨_, hfrom, hguard⟩ := (mem_departing_iff hx hs hid hb eventId guard a).mp ha
    rw [arcKey, hfrom, hguard]
    rfl
  rw [List.eq_replicate_of_mem hkeys, List.nodup_replicate, List.length_map] at hnodup
  exact hnodup

theorem departing_eq_singleton (eventId : String) (guard : Option String) (a : FiringArc)
    (h : a ∈ ws.departing m eventId s guard) : ws.departing m eventId s guard = [a] := by
  have hle := length_departing_le hx hs hid hb eventId guard
  obtain ⟨b, hb⟩ := List.length_eq_one_iff.mp (Nat.le_antisymm hle (List.length_pos_of_mem h))
  rw [hb] at h ⊢
  rw [List.mem_singleton.mp h]

/-! ## Explicit arcs -/

/-- Of the explicit arcs the last one counts. -/
theorem departing_eq_declared (hsound : ws.Sound m) (eventId : String) (guard : Option String) (r : EntityRef)
    (hlast : (ws.explicitArcs m eventId s guard).getLast? = some r)
    (hfrom : (ws.entity r).transition.fromId = some (ws.entity s).id) :
    ws.departing m eventId s guard = [.declared r] := by
  obtain ⟨hon, hleaves, hkey⟩ := (mem_explicitArcs_iff ws m eventId s guard r).mp (List.mem_of_getLast? hlast)
  -- Arcs from `#ALL` have keys of their own, so every arc with this key is explicit.
  have hcounts : ws.Counts (ws.arcsOn m eventId) r := by
    refine Assoc.isLast_of_getLast?_filter _ _ _ r (fun x _ hsame => ?_) hlast
    rw [decide_eq_true_iff, ← hkey, ← Bool.not_eq_true, ← fst_arcKey_eq_iff, hsame, fst_arcKey_eq_iff, hleaves]
    simp
  apply departing_eq_singleton hx hs hid hb
  refine (mem_departing_iff hx hs hid hb eventId guard _).mpr ⟨?_, hfrom, congrArg Prod.snd hkey⟩
  refine (mem_arcsForEvent_iff ws m eventId false _).mpr (List.mem_filter.mpr ⟨?_, ?_⟩)
  · exact (declared_mem_candidates ws m eventId false _ r).mpr ⟨hcounts, Or.inr hleaves⟩
  · exact endpoints_of_sound ws m hsound hb r (List.mem_filter.mp hon).1

/-- If all explicit arcs leave other states, then no arc leaves this one. -/
theorem departing_eq_nil (eventId : String) (guard : Option String)
    (hsome : ws.explicitArcs m eventId s guard ≠ [])
    (helsewhere : ∀ r ∈ ws.explicitArcs m eventId s guard, (ws.entity r).transition.fromId ≠ some (ws.entity s).id) :
    ws.departing m eventId s guard = [] := by
  rw [List.eq_nil_iff_forall_not_mem]
  intro a ha
  obtain ⟨hfires, hfrom, hguard⟩ := (mem_departing_iff hx hs hid hb eventId guard a).mp ha
  obtain ⟨⟨k, hmem⟩, _⟩ := candidate_of_mem_arcsForEvent ws m eventId false a hfires
  rcases candidates_cases ws m eventId false _ k a hmem with ⟨r, hr, hleaves, _, rfl⟩ | ⟨_, w, _, t, _, rfl, rfl, hopen⟩
  · refine helsewhere r ((mem_explicitArcs_iff ws m eventId s guard r).mpr ⟨hr.mem, hleaves.resolve_left (by simp), ?_⟩)
      hfrom
    rw [← hguard, arcKey, show (ws.entity r).transition.fromId = _ from hfrom]
    rfl
  · -- The arc is derived for a state with the same id.
    have hsame : (ws.entity t).id = (ws.entity s).id := Option.some.inj hfrom
    obtain rfl : (ws.entity w).transition.guard = guard := hguard
    rw [derivedKey_not_mem_iff, explicitArcs, hsame] at hopen
    exact hsome hopen

/-! ## Derived arcs -/

/-- If there is no explicit arc, the first arc from `#ALL` with the guard is derived for the first state with the
id. -/
theorem departing_eq_derived (hsound : ws.Sound m) (eventId : String) (w : EntityRef)
    (hw : w ∈ ws.wildcardsOn m eventId) (hnone : ws.explicitArcs m eventId s (ws.entity w).transition.guard = [])
    (hfirst : Assoc.IsFirst (fun t => Text.upper (ws.entity t).id) (ws.states m).1 s) :
    ∃ v, Assoc.IsFirst (fun v => (ws.entity v).transition.guard) (ws.wildcardsOn m eventId) v ∧
      (ws.entity v).transition.guard = (ws.entity w).transition.guard ∧
      ws.departing m eventId s (ws.entity w).transition.guard =
        [.derived ((ws.entity v).derivedFor (ws.entity s))] := by
  obtain ⟨v, hv, hguard⟩ := Assoc.exists_isFirst (fun v => (ws.entity v).transition.guard) _ w hw
  refine ⟨v, hv, hguard, ?_⟩
  change (ws.entity v).transition.guard = (ws.entity w).transition.guard at hguard
  rw [← hguard] at hnone ⊢
  apply departing_eq_singleton hx hs hid hb
  refine (mem_departing_iff hx hs hid hb eventId _ _).mpr ⟨?_, rfl, rfl⟩
  refine (mem_arcsForEvent_iff ws m eventId false _).mpr (List.mem_filter.mpr ⟨?_, ?_⟩)
  · refine List.mem_map.mpr ⟨(ws.derivedKey (v, s), ws.derivedArc (v, s)), ?_, rfl⟩
    refine (Assoc.mem_fill_iff _ _ _ _ _).mpr (Or.inr ⟨(v, s), isFirst_derivations ws _ _ v s hv hfirst, ?_, rfl⟩)
    exact (derivedKey_not_mem_iff ws m eventId v s).mpr hnone
  · have harc : v ∈ ws.members m .arc := (List.mem_filter.mp (List.mem_filter.mp hv.mem).1).1
    exact derived_endpoints_of_sound ws m hsound hb v s harc ((find_of_identified hx hs hid _).mpr rfl)

/-! ## States that share their ids with none -/

omit hs hid hb in
/-- Where no other state has the id of this one in any letter case, all its explicit arcs leave it. -/
theorem fromId_of_mem_explicitArcs (hsound : ws.Sound m) (hn : ws.Named m)
    (halone : ∀ t ∈ ws.members m .state, Text.upper (ws.entity t).id = Text.upper (ws.entity s).id → t = s)
    (eventId : String) (guard : Option String) (r : EntityRef) (hr : r ∈ ws.explicitArcs m eventId s guard) :
    (ws.entity r).transition.fromId = some (ws.entity s).id := by
  obtain ⟨hon, hleaves, hkey⟩ := (mem_explicitArcs_iff ws m eventId s guard r).mp hr
  obtain ⟨f, hf⟩ := hsound.refers r (List.mem_filter.mp hon).1 .origin
  obtain ⟨hf, hfrom⟩ := (findState_iff hx hn _ f).mp hf
  change (ws.entity r).transition.fromId = some (ws.entity f).id at hfrom
  rcases hf with rfl | hf
  · rw [id_allState hx hn] at hfrom
    exact absurd hfrom (fromId_ne_all _ hleaves)
  · rw [arcKey, hfrom] at hkey
    rw [hfrom, halone f hf (congrArg Prod.fst hkey)]

theorem length_departing_of_alone (hsound : ws.Sound m) (hn : ws.Named m)
    (halone : ∀ t ∈ ws.members m .state, Text.upper (ws.entity t).id = Text.upper (ws.entity s).id → t = s)
    (eventId : String) (w : EntityRef) (hw : w ∈ ws.wildcardsOn m eventId) :
    (ws.departing m eventId s (ws.entity w).transition.guard).length = 1 := by
  by_cases hnone : ws.explicitArcs m eventId s (ws.entity w).transition.guard = []
  · have hfirst : Assoc.IsFirst (fun t => Text.upper (ws.entity t).id) (ws.states m).1 s := by
      rw [states_eq_members hx hn]
      obtain ⟨t, hfirst, hsame⟩ := Assoc.exists_isFirst (fun t => Text.upper (ws.entity t).id) _ s hs
      rwa [← halone t hfirst.mem hsame]
    obtain ⟨v, _, _, harcs⟩ := departing_eq_derived hx hs hid hb hsound eventId w hw hnone hfirst
    rw [harcs]
    rfl
  · have hfrom := fromId_of_mem_explicitArcs hx hsound hn halone eventId _ _ (List.getLast_mem hnone)
    rw [departing_eq_declared hx hs hid hb hsound eventId _ _ (List.getLast?_eq_some_getLast hnone) hfrom]
    rfl

end

/-! ## Coverage -/

/-- In a valid machine, at most one arc with the guard of an arc from `#ALL` leaves a state: the last of the explicit
arcs, none if they all leave other states, and the derived arc if there are none. A state that shares its id with no
other, whatever the letter case, is left by exactly one. -/
theorem departing_of_wildcard (ws : Workspace) (m : MachineRef) (eventId : String) (w s : EntityRef)
    (hreach : ws.Reachable) (hvalid : (ws.check m).1.isValid = true) (hb : ws.ArcsBelong m)
    (hw : w ∈ ws.wildcardsOn m eventId) (hs : s ∈ ws.members m .state) (hid : ws.Identified m s) :
    let guard := (ws.entity w).transition.guard
    let arcs := ws.departing m eventId s guard
    let explicit := ws.explicitArcs m eventId s guard
    arcs.length ≤ 1 ∧
    (∀ r, explicit.getLast? = some r → (ws.entity r).transition.fromId = some (ws.entity s).id →
      arcs = [.declared r]) ∧
    (explicit ≠ [] → (∀ r ∈ explicit, (ws.entity r).transition.fromId ≠ some (ws.entity s).id) → arcs = []) ∧
    (explicit = [] → Assoc.IsFirst (fun t => Text.upper (ws.entity t).id) (ws.states m).1 s →
      ∃ v, Assoc.IsFirst (fun v => (ws.entity v).transition.guard) (ws.wildcardsOn m eventId) v ∧
        (ws.entity v).transition.guard = guard ∧ arcs = [.derived ((ws.entity v).derivedFor (ws.entity s))]) ∧
    (ws.Named m → (∀ t ∈ ws.members m .state, Text.upper (ws.entity t).id = Text.upper (ws.entity s).id → t = s) →
      arcs.length = 1) := by
  have hx := hreach.consistent.machine m (lt_of_mem_members ws m .state s hs)
  have hsound := sound_of_valid ws m hvalid
  intro guard arcs explicit
  exact ⟨length_departing_le hx hs hid hb eventId guard,
    departing_eq_declared hx hs hid hb hsound eventId guard,
    departing_eq_nil hx hs hid hb eventId guard,
    departing_eq_derived hx hs hid hb hsound eventId w hw,
    fun hn halone => length_departing_of_alone hx hs hid hb hsound hn halone eventId w hw⟩

/-- An arc from `#ALL`, and an arc from one of two states whose ids differ in letter case. -/
def eclipsed : Workspace := filled "m"
  [{ id := "S1", detail := .state [] [] none }, { id := "s3", detail := .state [] [] none },
   { id := "S3", detail := .state [] [] none }, { id := "E", detail := .event none },
   { id := "w", detail := .arc { fromId := some "#ALL", toId := some "#ALL", eventId := some "E" } },
   { id := "explicit", detail := .arc { fromId := some "s3", toId := some "S1", eventId := some "E" } }]

theorem departing_of_wildcard_eclipsed :
    ⟨5⟩ ∈ eclipsed.wildcardsOn ⟨0⟩ "E" ∧ (eclipsed.departing ⟨0⟩ "E" ⟨1⟩ none).length = 1 ∧
      eclipsed.departing ⟨0⟩ "E" ⟨2⟩ none = [.declared ⟨6⟩] ∧ eclipsed.departing ⟨0⟩ "E" ⟨3⟩ none = [] := by
  have hvalid : (eclipsed.check ⟨0⟩).1.isValid = true := by decide +kernel
  have hb : eclipsed.ArcsBelong ⟨0⟩ := by decide +kernel
  have hw : ⟨5⟩ ∈ eclipsed.wildcardsOn ⟨0⟩ "E" := by decide +kernel
  refine ⟨hw, ?_, ?_, ?_⟩
  · exact (departing_of_wildcard eclipsed ⟨0⟩ "E" ⟨5⟩ ⟨1⟩ (reachable_filled _ _) hvalid hb hw (by decide +kernel)
      (by decide +kernel)).2.2.2.2 (by decide +kernel) (by decide +kernel)
  · exact (departing_of_wildcard eclipsed ⟨0⟩ "E" ⟨5⟩ ⟨2⟩ (reachable_filled _ _) hvalid hb hw (by decide +kernel)
      (by decide +kernel)).2.1 ⟨6⟩ (by decide +kernel) (by decide +kernel)
  · exact (departing_of_wildcard eclipsed ⟨0⟩ "E" ⟨5⟩ ⟨3⟩ (reachable_filled _ _) hvalid hb hw (by decide +kernel)
      (by decide +kernel)).2.2.1 (by decide +kernel) (by decide +kernel)

/-- The arc from one state keeps the derived arc from the other, which no arc leaves. -/
theorem not_covered_eclipsed :
    ¬ ∀ (ws : Workspace) (m : MachineRef) (event w s : EntityRef), ws.Reachable → (ws.check m).1.isValid = true →
      ws.ArcsBelong m → event ∈ ws.members m .event → w ∈ ws.wildcardsOn m (ws.entity event).id →
      s ∈ ws.members m .state →
      (ws.departing m (ws.entity event).id s (ws.entity w).transition.guard).length = 1 := by
  intro h
  have hone := h eclipsed ⟨0⟩ ⟨4⟩ ⟨5⟩ ⟨3⟩ (reachable_filled _ _) (by decide +kernel) (by decide +kernel)
    (by decide +kernel) (by decide +kernel) (by decide +kernel)
  exact absurd hone (by decide +kernel)

/-- Nor does any arc leave a state that was given another id after it was added. -/
example : ((eclipsed.perform (.edit ⟨1⟩ ⟨fun e => { e with id := "S2" }, fun _ => rfl⟩)).departing ⟨0⟩ "E" ⟨1⟩
    none).length = 0 := by decide +kernel

end StateMachine.Workspace
