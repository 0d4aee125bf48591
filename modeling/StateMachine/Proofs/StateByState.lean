import StateMachine.Proofs.Operations
import StateMachine.Proofs.Validity

/-!
# The arcs of an event, state by state

What an event means in each state, with neither keys nor sorting: the state's own arcs, then an arc for each arc that
leaves `#ALL` with a guard that is still open. In a valid machine this is what fires.
-/

namespace StateMachine.Workspace

/-! ## The meaning of an event -/

/-- The declared arcs from a state on an event. -/
def leaving (ws : Workspace) (m : MachineRef) (event s : EntityRef) : List EntityRef :=
  (ws.members m .arc).filter fun r =>
    (ws.entity r).transition.fromId = some (ws.entity s).id ∧
      (ws.entity r).transition.eventId = some (ws.entity event).id

/-- The arcs from `#ALL` whose guards no arc from the state has. -/
def fallbacks (ws : Workspace) (m : MachineRef) (event s : EntityRef) : List EntityRef :=
  (ws.leaving m event (ws.machine m).allState).filter fun w =>
    ∀ r ∈ ws.leaving m event s, (ws.entity r).transition.guard ≠ (ws.entity w).transition.guard

/-- The arcs that fire in one state. -/
def firingIn (ws : Workspace) (m : MachineRef) (event s : EntityRef) : List FiringArc :=
  (ws.leaving m event s).map .declared ++
    (ws.fallbacks m event s).map fun w => .derived ((ws.entity w).derivedFor (ws.entity s))

/-- No two states and no two events have ids that differ in letter case only. -/
structure CaseDistinct (ws : Workspace) (m : MachineRef) : Prop where
  states : (((ws.machine m).allState :: ws.members m .state).map fun r => Text.upper (ws.entity r).id).Nodup
  events : ((ws.members m .event).map fun r => Text.upper (ws.entity r).id).Nodup

/-- A valid machine whose arcs and names are in order. -/
structure Orderly (ws : Workspace) (m : MachineRef) : Prop where
  consistent : (ws.machine m).Consistent ws.kindOf ws.entities.length
  sound : ws.Sound m
  named : ws.Named m
  belong : ws.ArcsBelong m
  distinct : ws.CaseDistinct m

theorem mem_leaving_iff {ws : Workspace} {m : MachineRef} {event : EntityRef} (s r : EntityRef) :
    r ∈ ws.leaving m event s ↔ r ∈ ws.members m .arc ∧
      (ws.entity r).transition.fromId = some (ws.entity s).id ∧
        (ws.entity r).transition.eventId = some (ws.entity event).id := by
  rw [leaving, List.mem_filter, decide_eq_true_iff]

theorem filter_declared (ws : Workspace) (s : EntityRef) (arcs : List EntityRef) :
    (arcs.map FiringArc.declared).filter (fun a => (ws.firing a).transition.fromId = some (ws.entity s).id) =
      (arcs.filter fun r => (ws.entity r).transition.fromId = some (ws.entity s).id).map .declared :=
  List.filter_map

/-! ## What arcs refer to -/

section
variable {ws : Workspace} {m : MachineRef} (h : ws.Orderly m)
include h

theorem id_allState_of_orderly : (ws.entity (ws.machine m).allState).id = allStateId :=
  id_allState h.consistent h.named

/-- The states of a machine have different ids, in upper case as well. -/
theorem eq_of_upper_eq (s t : EntityRef) (hs : s ∈ (ws.machine m).allState :: ws.members m .state)
    (ht : t ∈ (ws.machine m).allState :: ws.members m .state)
    (heq : Text.upper (ws.entity s).id = Text.upper (ws.entity t).id) : s = t :=
  List.inj_on_of_nodup_map h.distinct.states hs ht heq

theorem origin_of_arc (r : EntityRef) (hr : r ∈ ws.members m .arc) :
    ∃ f ∈ (ws.machine m).allState :: ws.members m .state,
      (ws.entity r).transition.fromId = some (ws.entity f).id := by
  obtain ⟨f, hf⟩ := h.sound.refers r hr .origin
  obtain ⟨hmem, hid⟩ := (findState_iff h.consistent h.named _ f).mp hf
  exact ⟨f, List.mem_cons.mpr hmem, hid⟩

/-- An arc leaves a state if it names it, in whatever letter case. -/
theorem from_eq_iff_upper (r s : EntityRef) (hr : r ∈ ws.members m .arc)
    (hs : s ∈ (ws.machine m).allState :: ws.members m .state) :
    (ws.entity r).transition.fromId = some (ws.entity s).id ↔
      (arcKey (ws.entity r)).1 = Text.upper (ws.entity s).id := by
  obtain ⟨f, hf, hid⟩ := origin_of_arc h r hr
  rw [arcKey, hid, Option.some.injEq, Option.getD_some]
  constructor
  · exact congrArg Text.upper
  · intro heq
    rw [eq_of_upper_eq h f s hf hs heq]

theorem leavesAll_iff (r : EntityRef) (hr : r ∈ ws.members m .arc) :
    (ws.entity r).leavesAll = true ↔
      (ws.entity r).transition.fromId = some (ws.entity (ws.machine m).allState).id := by
  rw [from_eq_iff_upper h r _ hr List.mem_cons_self, id_allState_of_orderly h, ← fst_arcKey_eq_iff]
  rw [show Text.upper allStateId = allStateId by decide +kernel]

theorem isOn_iff (event r : EntityRef) (he : event ∈ ws.members m .event) (hr : r ∈ ws.members m .arc) :
    (ws.entity r).isOn (ws.entity event).id = true ↔
      (ws.entity r).transition.eventId = some (ws.entity event).id := by
  obtain ⟨e, hfound⟩ := h.sound.refers r hr .event
  obtain ⟨i, hid, hentry, hkind⟩ := (find_eq_some_iff h.consistent _ _ e).mp hfound
  have hid : (ws.entity r).transition.eventId = some (ws.entity e).id := by
    rw [h.named _ hentry]
    exact hid
  have hmem : e ∈ ws.members m .event := by
    rw [h.consistent.entries_eq] at hentry
    rcases List.mem_cons.mp hentry with hentry | hentry
    · rw [(Prod.mk.inj hentry).2, h.consistent.allState_kind] at hkind
      cases hkind
    · exact (mem_members_iff h.consistent .event e).mpr ⟨i, hentry, hkind⟩
  rw [Entity.isOn, hid, Option.some.injEq]
  dsimp only
  rw [beq_iff_eq]
  constructor
  · intro heq
    rw [List.inj_on_of_nodup_map h.distinct.events hmem he heq]
  · exact congrArg Text.upper

theorem ne_allState (s : EntityRef) (hs : s ∈ ws.members m .state) :
    (ws.entity s).id ≠ (ws.entity (ws.machine m).allState).id := by
  intro heq
  have hall := eq_of_upper_eq h s _ (List.mem_cons_of_mem _ hs) List.mem_cons_self (congrArg Text.upper heq)
  exact allState_not_mem h.consistent h.named .state (hall ▸ hs)

/-! ## Candidates -/

theorem found_of_orderly (eventId : String) (raw : Bool) : ws.found m eventId raw (ws.members m .state) =
    (ws.candidates m eventId raw (ws.members m .state)).map (·.2) :=
  List.filter_eq_self.mpr <|
    candidate_endpoints_of_sound h.consistent h.named h.sound h.belong eventId raw _ fun _ hs => hs

/-- The arcs that fire are those from `#ALL`, then those from each state. -/
theorem arcsForEvent_eq_flatMap (eventId : String) (raw : Bool) : (ws.arcsForEvent m eventId raw).1 =
    ((ws.machine m).allState :: ws.members m .state).flatMap fun s =>
      ((ws.candidates m eventId raw (ws.members m .state)).map (·.2)).filter fun a =>
        (ws.firing a).transition.fromId = some (ws.entity s).id := by
  have horigin : ∀ a ∈ ws.found m eventId raw (ws.members m .state),
      ∃ f ∈ (ws.machine m).allState :: ws.members m .state, ws.originRank m a = ws.rankOf m f ∧
        (ws.firing a).transition.fromId = some (ws.entity f).id := by
    intro a ha
    obtain ⟨f, t, hends, hfrom, _⟩ := endpoints_of_mem_found h.belong _ raw _ a ha
    obtain ⟨hf, hid⟩ := (findState_iff h.consistent h.named _ f).mp hfrom
    refine ⟨f, List.mem_cons.mpr hf, ?_, hid⟩
    rw [originRank, hends]
    rfl
  have hranks := pairwise_rankOf h.consistent h.named
  rw [arcsForEvent_eq_ranked h.consistent h.named h.belong, ← found_of_orderly h,
    sorted_eq_flatMap _ (ws.rankOf m) _ _ hranks fun a ha => ?_]
  · apply List.flatMap_congr
    intro s hs
    apply List.filter_congr
    intro a ha
    obtain ⟨f, hf, hrank, hid⟩ := horigin a ha
    rw [hrank, hid, decide_eq_decide, Option.some.injEq]
    constructor
    · intro heq
      have hdistinct : (((ws.machine m).allState :: ws.members m .state).map (ws.rankOf m)).Nodup :=
        List.pairwise_map.mpr (hranks.imp fun hlt => by omega)
      rw [List.inj_on_of_nodup_map hdistinct hf hs heq]
    · intro heq
      rw [eq_of_upper_eq h f s hf hs (congrArg Text.upper heq)]
  · obtain ⟨f, hf, hrank, _⟩ := horigin a ha
    exact ⟨f, hf, hrank⟩

theorem candidates_from_allState (eventId : String) :
    ((ws.candidates m eventId false (ws.members m .state)).map (·.2)).filter
        (fun a => (ws.firing a).transition.fromId = some (ws.entity (ws.machine m).allState).id) = [] := by
  rw [List.filter_eq_nil_iff]
  intro a ha
  obtain ⟨⟨k, b⟩, hmem, rfl⟩ := List.mem_map.mp ha
  rw [decide_eq_true_iff]
  rcases candidates_cases ws m _ false _ k b hmem with ⟨r, hr, hleaves, _, rfl⟩ | ⟨_, w, _, s, hs, _, rfl, _⟩
  · have hleaves := hleaves.resolve_left (by simp)
    rw [← Bool.not_eq_true, leavesAll_iff h r (List.mem_filter.mp hr.mem).1] at hleaves
    exact hleaves
  · exact fun heq => ne_allState h s hs (Option.some.inj heq)

/-! ## Declared arcs -/

variable {event : EntityRef} (he : event ∈ ws.members m .event)
include he

theorem keyedArcs_of_orderly : ws.keyedArcs (ws.arcsOn m (ws.entity event).id) =
    (ws.arcsOn m (ws.entity event).id).map fun r => (arcKey (ws.entity r), .declared r) := by
  apply Assoc.bindAll_eq_map
  refine List.Nodup.map_on ?_ (h.sound.exits.of_map.filter _)
  intro r hr s hs heq
  obtain ⟨hr, hron⟩ := List.mem_filter.mp hr
  obtain ⟨hs, hson⟩ := List.mem_filter.mp hs
  have hfrom : (ws.entity r).transition.fromId = (ws.entity s).transition.fromId := by
    obtain ⟨f, hf, hid⟩ := origin_of_arc h s hs
    rw [hid, from_eq_iff_upper h r f hr hf, heq]
    exact (from_eq_iff_upper h s f hs hf).mp hid
  have hevent := (isOn_iff h event r he hr).mp hron
  rw [← (isOn_iff h event s he hs).mp hson] at hevent
  exact h.sound.eq_of_same_exit r s hr hs hfrom hevent (congrArg Prod.snd heq)

theorem filter_arcsOn (s : EntityRef) :
    (ws.arcsOn m (ws.entity event).id).filter (fun r => (ws.entity r).transition.fromId = some (ws.entity s).id) =
      ws.leaving m event s := by
  rw [arcsOn, List.filter_filter, leaving]
  apply List.filter_congr
  intro r hr
  rw [Bool.decide_and]
  congr 1
  rw [Bool.eq_iff_iff, isOn_iff h event r he hr, decide_eq_true_iff]

theorem wildcardsOn_eq : ws.wildcardsOn m (ws.entity event).id = ws.leaving m event (ws.machine m).allState := by
  rw [← filter_arcsOn h he, wildcardsOn]
  apply List.filter_congr
  intro r hr
  rw [Bool.eq_iff_iff, decide_eq_true_iff]
  exact leavesAll_iff h r (List.mem_filter.mp hr).1

/-! ## One state -/

theorem candidates_raw (s : EntityRef) :
    ((ws.candidates m (ws.entity event).id true (ws.members m .state)).map (·.2)).filter
        (fun a => (ws.firing a).transition.fromId = some (ws.entity s).id) =
      (ws.leaving m event s).map .declared := by
  rw [candidates, if_pos rfl, keyedArcs_of_orderly h he, List.map_map, ← filter_arcsOn h he]
  exact filter_declared ws s _

theorem concreteArcs_of_orderly : ws.concreteArcs (ws.arcsOn m (ws.entity event).id) =
    ((ws.arcsOn m (ws.entity event).id).filter fun r => !(ws.entity r).leavesAll).map
      fun r => (arcKey (ws.entity r), .declared r) := by
  rw [concreteArcs, keyedArcs_of_orderly h he, List.filter_map]
  congr 1
  apply List.filter_congr
  intro r _
  simp [fst_arcKey_eq_iff]

/-- Arcs from `#ALL` on one event have different guards, so no two derivations have one key. -/
theorem nodup_derivedKeys :
    ((derivations (ws.wildcardsOn m (ws.entity event).id) (ws.members m .state)).map ws.derivedKey).Nodup := by
  have hpairs : (derivations (ws.wildcardsOn m (ws.entity event).id) (ws.members m .state)).Nodup :=
    List.Nodup.product ((h.sound.exits.of_map.filter _).filter _) (nodup_members h.consistent h.named .state)
  refine hpairs.map_on ?_
  rintro ⟨w, s⟩ hp ⟨v, t⟩ hq heq
  obtain ⟨hw, hs⟩ := (mem_derivations _ _ _).mp hp
  obtain ⟨hv, ht⟩ := (mem_derivations _ _ _).mp hq
  rw [wildcardsOn_eq h he] at hw hv
  obtain ⟨hw, hwfrom, hwevent⟩ := (mem_leaving_iff _ w).mp hw
  obtain ⟨hv, hvfrom, hvevent⟩ := (mem_leaving_iff _ v).mp hv
  obtain ⟨hstate, hguard⟩ := Prod.mk.inj heq
  rw [eq_of_upper_eq h s t (List.mem_cons_of_mem _ hs) (List.mem_cons_of_mem _ ht) hstate,
    h.sound.eq_of_same_exit w v hw hv (hwfrom.trans hvfrom.symm) (hwevent.trans hvevent.symm) hguard]

theorem candidates_expanded : ws.candidates m (ws.entity event).id false (ws.members m .state) =
    ws.concreteArcs (ws.arcsOn m (ws.entity event).id) ++
      ((derivations (ws.wildcardsOn m (ws.entity event).id) (ws.members m .state)).filter fun p =>
        !Assoc.has (ws.derivedKey p) (ws.concreteArcs (ws.arcsOn m (ws.entity event).id))).map
          fun p => (ws.derivedKey p, ws.derivedArc p) := by
  rw [candidates, if_neg (by simp)]
  exact Assoc.fill_eq_append _ _ _ _ (nodup_derivedKeys h he)

/-- A key is open in a state if no arc from the state has the guard. -/
theorem has_derivedKey_iff (w s : EntityRef) (hs : s ∈ ws.members m .state) :
    Assoc.has (ws.derivedKey (w, s)) (ws.concreteArcs (ws.arcsOn m (ws.entity event).id)) = true ↔
      ∃ r ∈ ws.leaving m event s, (ws.entity r).transition.guard = (ws.entity w).transition.guard := by
  have hmem := hs
  have hs := List.mem_cons_of_mem (ws.machine m).allState hs
  rw [Assoc.has_iff, mem_keys_concreteArcs]
  constructor
  · rintro ⟨r, hr, _, hkey⟩
    obtain ⟨hr, hon⟩ := List.mem_filter.mp hr
    refine ⟨r, (mem_leaving_iff s r).mpr ⟨hr, ?_, (isOn_iff h event r he hr).mp hon⟩, congrArg Prod.snd hkey⟩
    exact (from_eq_iff_upper h r s hr hs).mpr (congrArg Prod.fst hkey)
  · rintro ⟨r, hr, hguard⟩
    obtain ⟨hr, hfrom, hevent⟩ := (mem_leaving_iff s r).mp hr
    have hleaves : (ws.entity r).leavesAll = false := by
      rw [← Bool.not_eq_true, leavesAll_iff h r hr, hfrom, Option.some.injEq]
      exact ne_allState h s hmem
    refine ⟨r, List.mem_filter.mpr ⟨hr, (isOn_iff h event r he hr).mpr hevent⟩, hleaves, ?_⟩
    exact Prod.ext ((from_eq_iff_upper h r s hr hs).mp hfrom) hguard

theorem candidates_in_state (s : EntityRef) (hs : s ∈ ws.members m .state) :
    ((ws.candidates m (ws.entity event).id false (ws.members m .state)).map (·.2)).filter
        (fun a => (ws.firing a).transition.fromId = some (ws.entity s).id) =
      ws.firingIn m event s := by
  have hdeclared : ((ws.arcsOn m (ws.entity event).id).filter fun r => !(ws.entity r).leavesAll).filter
      (fun r => (ws.entity r).transition.fromId = some (ws.entity s).id) = ws.leaving m event s := by
    rw [← filter_arcsOn h he, List.filter_filter]
    apply List.filter_congr
    intro r hr
    rw [Bool.and_eq_left_iff_imp, decide_eq_true_iff]
    intro hfrom
    have hleaves : ¬ (ws.entity r).leavesAll = true := by
      rw [leavesAll_iff h r (List.mem_filter.mp hr).1, hfrom, Option.some.injEq]
      exact ne_allState h s hs
    simpa using hleaves
  have hderived : ∀ p ∈ derivations (ws.wildcardsOn m (ws.entity event).id) (ws.members m .state),
      decide ((ws.firing (ws.derivedArc p)).transition.fromId = some (ws.entity s).id) = decide (p.2 = s) := by
    intro p hp
    rw [decide_eq_decide]
    refine ⟨fun heq => ?_, fun heq => by rw [← heq]; rfl⟩
    have hp := ((mem_derivations _ _ _).mp hp).2
    exact eq_of_id_eq h.consistent h.named .state .state p.2 s hp hs (Option.some.inj heq)
  rw [candidates_expanded h he, concreteArcs_of_orderly h he, List.map_append, List.map_map, List.map_map,
    List.filter_append, firingIn]
  congr 1
  · rw [← hdeclared]
    exact filter_declared ws s _
  · rw [List.filter_map, List.filter_filter]
    have hfilter : (derivations (ws.wildcardsOn m (ws.entity event).id) (ws.members m .state)).filter (fun p =>
          decide ((ws.firing (ws.derivedArc p)).transition.fromId = some (ws.entity s).id) &&
            !Assoc.has (ws.derivedKey p) (ws.concreteArcs (ws.arcsOn m (ws.entity event).id))) =
        (ws.fallbacks m event s).map fun w => (w, s) := by
      rw [List.filter_congr fun p hp => by rw [hderived p hp, Bool.and_comm],
        filter_derivations _ _ s (nodup_members h.consistent h.named .state) hs, wildcardsOn_eq h he, fallbacks]
      congr 1
      apply List.filter_congr
      intro w _
      rw [Bool.eq_iff_iff, Bool.not_eq_true', ← Bool.not_eq_true, has_derivedKey_iff h he w s hs, decide_eq_true_iff]
      simp
    rw [concreteArcs_of_orderly h he] at hfilter
    exact (congrArg _ hfilter).trans List.map_map

end

/-! ## The resolver -/

/-- The resolver answers what the meaning of the event is in each state, one state after the other. -/
theorem arcsForEvent_eq_firingIn (ws : Workspace) (m : MachineRef) (event : EntityRef) (hreach : ws.Reachable)
    (hvalid : (ws.check m).1.isValid = true) (hdistinct : ws.CaseDistinct m) (hb : ws.ArcsBelong m)
    (hn : ws.Named m) (he : event ∈ ws.members m .event) :
    (ws.arcsForEvent m (ws.entity event).id false).1 = (ws.states m).1.flatMap (ws.firingIn m event) ∧
    (ws.arcsForEvent m (ws.entity event).id true).1 =
      (ws.leaving m event (ws.machine m).allState).map .declared ++
        (ws.states m).1.flatMap fun s => (ws.leaving m event s).map .declared := by
  have hx := hreach.consistent.machine m (lt_of_mem_members ws m .event event he)
  have h : ws.Orderly m := ⟨hx, sound_of_valid ws m hvalid, hn, hb, hdistinct⟩
  rw [states_eq_members hx hn, arcsForEvent_eq_flatMap h, arcsForEvent_eq_flatMap h]
  refine ⟨?_, ?_⟩
  · rw [List.flatMap_cons, candidates_from_allState h, List.nil_append]
    exact List.flatMap_congr fun s hs => candidates_in_state h he s hs
  · simp only [candidates_raw h he, List.flatMap_cons]

/-- A door with arcs from one state and from `#ALL`, with a guard and without. -/
def door : Workspace := filled "door"
  [{ id := "shut", detail := .state [] [] none }, { id := "open", detail := .state [] [] none },
   { id := "tick", detail := .event none },
   { id := "w", detail := .arc { fromId := some "#ALL", toId := some "#ALL", eventId := some "tick" } },
   { id := "a", detail := .arc { fromId := some "open", toId := some "shut", eventId := some "tick" } },
   { id := "v", detail := .arc
      { fromId := some "#ALL", toId := some "shut", eventId := some "tick", guard := some "late" } }]

theorem arcsForEvent_eq_firingIn_door :
    (door.check ⟨0⟩).1.isValid = true ∧ door.CaseDistinct ⟨0⟩ ∧ door.ArcsBelong ⟨0⟩ ∧ door.Named ⟨0⟩ ∧
      ⟨3⟩ ∈ door.members ⟨0⟩ .event ∧
      (door.arcsForEvent ⟨0⟩ (door.entity ⟨3⟩).id false).1 = (door.states ⟨0⟩).1.flatMap (door.firingIn ⟨0⟩ ⟨3⟩) := by
  have hdistinct : door.CaseDistinct ⟨0⟩ := ⟨by decide +kernel, by decide +kernel⟩
  refine ⟨by decide +kernel, hdistinct, by decide +kernel, by decide +kernel, by decide +kernel, ?_⟩
  exact (arcsForEvent_eq_firingIn door ⟨0⟩ ⟨3⟩ (reachable_filled _ _) (by decide +kernel) hdistinct
    (by decide +kernel) (by decide +kernel) (by decide +kernel)).1

end StateMachine.Workspace
