import Mathlib.Data.List.Perm.Subperm
import StateMachine.Proofs.Agreement
import StateMachine.Proofs.Extracting
import StateMachine.Proofs.Renumbering

/-!
# The arcs that an extraction collects

The arcs of one event after the other, each id once. If arcs with one id say the same, then the arcs of every selected
event are all there, side by side and in their order.
-/

namespace StateMachine.Workspace

/-! ## Keeping what is new -/

section
variable (ws : Workspace)

/-- The id under which an arc that fires is told apart. -/
def nameOf (a : FiringArc) : String := (ws.firing a).id

theorem nameOf_of_bare_eq {ws ws' : Workspace} (h : ws'.bare = ws.bare) : ws'.nameOf = ws.nameOf := by
  funext a
  cases a with
  | declared r => exact id_entity_of_bare_eq h r
  | derived e => rfl

theorem keepNew_of_bare_eq {ws ws' : Workspace} (h : ws'.bare = ws.bare) : ws'.keepNew = ws.keepNew := by
  have hname := nameOf_of_bare_eq h
  funext kept found
  change found.foldl (fun kept a => if kept.any fun b => ws'.nameOf b == ws'.nameOf a then kept else kept ++ [a]) kept =
    found.foldl (fun kept a => if kept.any fun b => ws.nameOf b == ws.nameOf a then kept else kept ++ [a]) kept
  rw [hname]

/-- Keeping new arcs is filling an association of arcs by id. -/
theorem fill_eq_keepNew (kept found : List FiringArc) :
    Assoc.fill ws.nameOf id found (kept.map fun a => (ws.nameOf a, a)) =
      (ws.keepNew kept found).map fun a => (ws.nameOf a, a) := by
  induction found generalizing kept with
  | nil => rfl
  | cons a rest ih =>
    have hhas : Assoc.has (ws.nameOf a) (kept.map fun b => (ws.nameOf b, b)) =
        kept.any fun b => (ws.firing b).id == (ws.firing a).id := by
      rw [Assoc.has, List.any_map]
      rfl
    rw [Assoc.fill, List.foldl_cons, ← Assoc.fill, keepNew, List.foldl_cons, ← keepNew, hhas]
    split
    · exact ih kept
    · rw [← ih (kept ++ [a]), List.map_append]
      rfl

theorem nodup_names_keepNew (kept found : List FiringArc) (h : (kept.map ws.nameOf).Nodup) :
    ((ws.keepNew kept found).map ws.nameOf).Nodup := by
  have hkeys : ∀ arcs : List FiringArc, Assoc.keys (arcs.map fun a => (ws.nameOf a, a)) = arcs.map ws.nameOf := by
    intro arcs
    rw [Assoc.keys, List.map_map]
    rfl
  rw [← hkeys] at h ⊢
  rw [← fill_eq_keepNew]
  exact Assoc.nodup_keys_fill _ _ _ _ h

/-- What is appended comes in the order in which it was found, and has new ids. -/
theorem exists_keepNew_eq (kept found : List FiringArc) : ∃ new, ws.keepNew kept found = kept ++ new ∧
    new.Sublist found ∧ ∀ a ∈ new, ∀ b ∈ kept, ws.nameOf b ≠ ws.nameOf a := by
  induction found generalizing kept with
  | nil => exact ⟨[], (List.append_nil _).symm, List.Sublist.refl _, by simp⟩
  | cons a rest ih =>
    rw [keepNew, List.foldl_cons, ← keepNew]
    split
    case isTrue =>
      obtain ⟨new, heq, hsub, hfresh⟩ := ih kept
      exact ⟨new, heq, hsub.cons a, hfresh⟩
    case isFalse hnew =>
      rw [List.any_eq_true, not_exists] at hnew
      obtain ⟨new, heq, hsub, hfresh⟩ := ih (kept ++ [a])
      refine ⟨a :: new, by rw [heq, List.append_assoc]; rfl, hsub.cons_cons a, ?_⟩
      intro x hx b hb
      rcases List.mem_cons.mp hx with rfl | hx
      · exact fun hname => hnew b ⟨hb, beq_iff_eq.mpr hname⟩
      · exact hfresh x hx b (List.mem_append_left _ hb)

theorem keepNew_append (kept found more : List FiringArc) :
    ws.keepNew kept (found ++ more) = ws.keepNew (ws.keepNew kept found) more := List.foldl_append

/-- What is there already is not kept again. -/
theorem keepNew_of_subset (kept found : List FiringArc) (h : found ⊆ kept) : ws.keepNew kept found = kept := by
  obtain ⟨new, heq, hsub, hfresh⟩ := ws.exists_keepNew_eq kept found
  have hnone : new = [] := List.eq_nil_iff_forall_not_mem.mpr fun a ha => hfresh a ha a (h (hsub.subset ha)) rfl
  rw [heq, hnone, List.append_nil]

/-- Arcs with new ids are all kept. -/
theorem keepNew_of_fresh (kept found : List FiringArc) (h : ((kept ++ found).map ws.nameOf).Nodup) :
    ws.keepNew kept found = kept ++ found := by
  induction found generalizing kept with
  | nil => exact (List.append_nil kept).symm
  | cons a rest ih =>
    have hnew : ¬ (kept.any fun b => (ws.firing b).id == (ws.firing a).id) = true := by
      rw [List.any_eq_true]
      rintro ⟨b, hb, hname⟩
      rw [List.map_append, List.nodup_append] at h
      exact h.2.2 _ (List.mem_map_of_mem hb) _ (List.mem_map_of_mem List.mem_cons_self) (beq_iff_eq.mp hname)
    rw [← List.singleton_append, ← List.append_assoc] at h ⊢
    rw [List.singleton_append, keepNew, List.foldl_cons, ← keepNew, if_neg hnew, ih _ h]

/-- Which arcs are kept depends on their ids only. -/
theorem map_nameOf_keepNew (kept found : List FiringArc) : (ws.keepNew kept found).map ws.nameOf =
    (found.map ws.nameOf).foldl (fun names name => if name ∈ names then names else names ++ [name])
      (kept.map ws.nameOf) := by
  induction found generalizing kept with
  | nil => rfl
  | cons a rest ih =>
    have hany : (kept.any fun b => (ws.firing b).id == (ws.firing a).id) = true ↔
        ws.nameOf a ∈ kept.map ws.nameOf := by
      rw [List.any_eq_true, List.mem_map]
      exact exists_congr fun b => and_congr_right fun _ => beq_iff_eq
    rw [keepNew, List.foldl_cons, ← keepNew, ih, List.map_cons, List.foldl_cons]
    by_cases hmem : ws.nameOf a ∈ kept.map ws.nameOf
    · rw [if_pos (hany.mpr hmem), if_pos hmem]
    · rw [if_neg (mt hany.mp hmem), if_neg hmem, List.map_append, List.map_singleton]

/-- Of arcs with one id the first is kept. -/
theorem mem_keepNew_nil_iff (found : List FiringArc) (a : FiringArc) :
    a ∈ ws.keepNew [] found ↔ Assoc.IsFirst ws.nameOf found a := by
  have hfill : (ws.nameOf a, a) ∈ Assoc.fill ws.nameOf id found [] ↔ a ∈ ws.keepNew [] found := by
    rw [show ([] : List (String × FiringArc)) = ([] : List FiringArc).map fun b => (ws.nameOf b, b) from rfl,
      fill_eq_keepNew, List.mem_map]
    simp only [Prod.mk.injEq]
    constructor
    · rintro ⟨b, hb, _, rfl⟩
      exact hb
    · exact fun h => ⟨a, h, rfl, rfl⟩
  rw [← hfill, Assoc.mem_fill_nil_iff]
  constructor
  · rintro ⟨b, hb, heq⟩
    rw [(Prod.mk.inj heq).2]
    exact hb
  · exact fun h => ⟨a, h, rfl⟩

end

/-! ## All selected events -/

/-- The arcs of one event after the other. -/
def fired (ws : Workspace) (m : MachineRef) (events : List EntityRef) : List FiringArc :=
  events.flatMap fun event => (ws.arcsForEvent m (ws.entity event).id false).1

theorem mem_fired (ws : Workspace) (m : MachineRef) (events : List EntityRef) (a : FiringArc) :
    a ∈ ws.fired m events ↔ ∃ event ∈ events, a ∈ (ws.arcsForEvent m (ws.entity event).id false).1 :=
  List.mem_flatMap

/-- The arcs of one event after the other, each id once, as they fire in one workspace. -/
def gather (ws : Workspace) (m : MachineRef) (events : List EntityRef) : List FiringArc :=
  events.foldl (fun kept event => ws.keepNew kept (ws.arcsForEvent m (ws.entity event).id false).1) []

theorem gather_eq (ws : Workspace) (m : MachineRef) (events : List EntityRef) :
    ws.gather m events = ws.keepNew [] (ws.fired m events) :=
  List.foldl_flatMap.symm

theorem mem_gather_iff (ws : Workspace) (m : MachineRef) (events : List EntityRef) (a : FiringArc) :
    a ∈ ws.gather m events ↔ Assoc.IsFirst ws.nameOf (ws.fired m events) a := by
  rw [gather_eq, mem_keepNew_nil_iff]

theorem nodup_names_gather (ws : Workspace) (m : MachineRef) (events : List EntityRef) :
    ((ws.gather m events).map ws.nameOf).Nodup := by
  rw [gather_eq]
  exact nodup_names_keepNew ws [] _ List.nodup_nil

theorem gather_append (ws : Workspace) (m : MachineRef) (done rest : List EntityRef) :
    ws.gather m (done ++ rest) = ws.keepNew (ws.gather m done) (ws.fired m rest) := by
  rw [gather_eq, gather_eq, fired, List.flatMap_append, keepNew_append, fired, fired]

theorem renumbered_collectOne (m : MachineRef) (state : List FiringArc × Workspace) (event : EntityRef) :
    Renumbered state.2 (collectOne m state event).2 m :=
  renumbered_arcsForEvent state.2 m _ false

theorem renumbered_collectArcs (ws : Workspace) (m : MachineRef) (events : List EntityRef) :
    Renumbered ws (ws.collectArcs m events).2 m := by
  have hfold : ∀ state : List FiringArc × Workspace, Renumbered ws state.2 m →
      Renumbered ws (events.foldl (collectOne m) state).2 m := by
    induction events with
    | nil => exact fun _ h => h
    | cons event rest ih => exact fun state h => ih _ (h.trans (renumbered_collectOne m state event))
  exact hfold _ .refl

/-- Collecting numbers the states once and for all. -/
theorem entity_collectArcs (ws : Workspace) (m : MachineRef) (events : List EntityRef) (hne : events ≠ [])
    (r : EntityRef) : (ws.collectArcs m events).2.entity r = (ws.renumber m).entity r := by
  obtain ⟨before, last, rfl⟩ := List.eq_nil_or_concat events |>.resolve_left hne
  rw [List.concat_eq_append, collectArcs_eq, List.foldl_append, List.foldl_cons, List.foldl_nil, ← collectArcs_eq,
    ← (renumbered_collectArcs ws m before).entity_renumber_eq r, entity_eq, entity_eq, collectOne,
    entities_arcsForEvent]

/-- What resolving one event changes is not seen by the next. -/
theorem collectArcs_eq_gather (ws : Workspace) (m : MachineRef) (events : List EntityRef) :
    (ws.collectArcs m events).1 = ws.gather m events := by
  have hfold : ∀ state : List FiringArc × Workspace, Renumbered ws state.2 m →
      (events.foldl (collectOne m) state).1 = events.foldl
        (fun kept event => ws.keepNew kept (ws.arcsForEvent m (ws.entity event).id false).1) state.1 := by
    induction events with
    | nil => exact fun _ _ => rfl
    | cons event rest ih =>
      intro state h
      have hafter := h.trans (renumbered_collectOne m state event)
      have hone : (collectOne m state event).1 =
          ws.keepNew state.1 (ws.arcsForEvent m (ws.entity event).id false).1 := by
        rw [collectOne_eq, id_entity_of_bare_eq h.bare_eq]
        dsimp only
        rw [h.arcsForEvent_eq, keepNew_of_bare_eq ((bare_arcsForEvent state.2 m _ false).trans h.bare_eq)]
      rw [List.foldl_cons, ih _ hafter, List.foldl_cons, hone]
  exact hfold _ .refl

theorem mem_collectArcs_iff (ws : Workspace) (m : MachineRef) (events : List EntityRef) (a : FiringArc) :
    a ∈ (ws.collectArcs m events).1 ↔ Assoc.IsFirst ws.nameOf (ws.fired m events) a := by
  rw [collectArcs_eq_gather, mem_gather_iff]

theorem mem_collectArcs (ws : Workspace) (m : MachineRef) (events : List EntityRef) (a : FiringArc)
    (h : a ∈ (ws.collectArcs m events).1) :
    ∃ event ∈ events, a ∈ (ws.arcsForEvent m (ws.entity event).id false).1 :=
  (mem_fired ws m events a).mp ((mem_collectArcs_iff ws m events a).mp h).mem

theorem nodup_names_collectArcs (ws : Workspace) (m : MachineRef) (events : List EntityRef) :
    ((ws.collectArcs m events).1.map ws.nameOf).Nodup := by
  rw [collectArcs_eq_gather]
  exact nodup_names_gather ws m events

section
variable {ws : Workspace} {m : MachineRef} (hc : ws.Consistent) (hm : m.index < ws.machines.length)
  (hn : ws.Named m)
include hc hm

theorem consistent_machine_of_bare_eq {ws₁ : Workspace} (h : ws₁.bare = ws.bare) :
    (ws₁.machine m).Consistent ws₁.kindOf ws₁.entities.length := by
  refine (consistent_of_bare_eq h hc).machine m ?_
  rw [length_machines_of_bare_eq h]
  exact hm

include hn

/-- After collecting, the states have their numbers. -/
theorem numberOf_collectArcs (events : List EntityRef) (hne : events ≠ []) (s : EntityRef)
    (hs : s = (ws.machine m).allState ∨ s ∈ ws.members m .state) :
    (ws.collectArcs m events).2.numberOf s = ws.rankOf m s := by
  rw [numberOf, entity_collectArcs ws m events hne, ← numberOf, numberOf_renumber (hc.machine m hm) hn s hs]

end

/-! ## The arcs of one event among all -/

theorem isOn_of_mem_arcsForEvent (ws : Workspace) (m : MachineRef) (eventId : String) (raw : Bool) (a : FiringArc)
    (h : a ∈ (ws.arcsForEvent m eventId raw).1) : (ws.firing a).isOn eventId = true := by
  obtain ⟨⟨k, hmem⟩, _⟩ := candidate_of_mem_arcsForEvent ws m eventId raw a h
  rcases candidates_cases ws m eventId raw _ k a hmem with ⟨r, hr, _, _, rfl⟩ | ⟨_, w, hw, s, _, _, rfl, _⟩
  · exact (List.mem_filter.mp hr.mem).2
  · exact (List.mem_filter.mp (List.mem_filter.mp hw).1).2

/-- Events whose ids differ in letter case only have the same arcs. -/
theorem arcsForEvent_of_upper_eq (ws : Workspace) (m : MachineRef) (x y : String) (raw : Bool)
    (h : Text.upper x = Text.upper y) : ws.arcsForEvent m x raw = ws.arcsForEvent m y raw := by
  have hon : ∀ e : Entity, e.isOn x = e.isOn y := by
    intro e
    rw [Entity.isOn, h, Entity.isOn]
  have harcs : ∀ ws : Workspace, ws.arcsOn m x = ws.arcsOn m y := by
    intro ws
    simp only [arcsOn, hon]
  have hcandidates : ∀ ws : Workspace, ws.candidateArcs m x raw = ws.candidateArcs m y raw := by
    intro ws
    rw [candidateArcs_eq, candidateArcs_eq, candidates, candidates, wildcardsOn, wildcardsOn, harcs]
  simp only [arcsForEvent, resolve, hcandidates]

theorem upper_eq_of_isOn (e : Entity) (x y : String) (hx : e.isOn x = true) (hy : e.isOn y = true) :
    Text.upper x = Text.upper y := by
  unfold Entity.isOn at hx hy
  split at hx
  case h_1 id hid =>
    rw [hid] at hy
    exact (beq_iff_eq.mp hx).symm.trans (beq_iff_eq.mp hy)
  case h_2 => cases hx

/-- If an arc of one event is on another one, both events have the same arcs. -/
theorem arcsForEvent_of_isOn (ws : Workspace) (m : MachineRef) (x y : String) (raw : Bool) (a : FiringArc)
    (h : a ∈ (ws.arcsForEvent m x raw).1) (hon : (ws.firing a).isOn y = true) :
    ws.arcsForEvent m x raw = ws.arcsForEvent m y raw :=
  arcsForEvent_of_upper_eq ws m x y raw (upper_eq_of_isOn _ x y (isOn_of_mem_arcsForEvent ws m x raw a h) hon)

/-- No two arcs that fire on an event have one key. -/
theorem nodup_keys_arcsForEvent (ws : Workspace) (m : MachineRef) (eventId : String) (raw : Bool) :
    ((ws.arcsForEvent m eventId raw).1.map fun a => arcKey (ws.firing a)).Nodup := by
  rw [arcsForEvent_eq_sorted]
  refine ((sorted_perm _ _).map _).nodup_iff.mpr ?_
  have hkeys := nodup_keys_candidates ws m eventId raw (ws.states m).1
  have hsame : ((ws.candidates m eventId raw (ws.states m).1).map (·.2)).map (fun a => arcKey (ws.firing a)) =
      Assoc.keys (ws.candidates m eventId raw (ws.states m).1) := by
    rw [List.map_map]
    exact List.map_congr_left fun entry he => key_of_mem_candidates ws m eventId raw _ entry.1 entry.2 he
  rw [← hsame] at hkeys
  exact hkeys.sublist (List.filter_sublist.map _)

section
variable (ws : Workspace) (m : MachineRef) (events : List EntityRef)

/-- Arcs with one event fire together, and those with one origin and guard have one key. -/
theorem eq_of_mem_fired (a b : FiringArc) (ha : a ∈ ws.fired m events) (hb : b ∈ ws.fired m events)
    (hfrom : (ws.firing a).transition.fromId = (ws.firing b).transition.fromId)
    (hevent : (ws.firing a).transition.eventId = (ws.firing b).transition.eventId)
    (hguard : (ws.firing a).transition.guard = (ws.firing b).transition.guard) : a = b := by
  obtain ⟨e, _, ha⟩ := (mem_fired ws m events a).mp ha
  obtain ⟨f, _, hb⟩ := (mem_fired ws m events b).mp hb
  have hon := isOn_of_mem_arcsForEvent ws m _ false a ha
  rw [Entity.isOn, hevent, ← Entity.isOn] at hon
  rw [arcsForEvent_of_isOn ws m _ _ false b hb hon] at hb
  apply List.inj_on_of_nodup_map (nodup_keys_arcsForEvent ws m (ws.entity e).id false) ha hb
  rw [arcKey, arcKey, hfrom, hguard]

/-- What later events add is not on earlier ones. -/
theorem exists_gather_append_eq (done rest : List EntityRef) : ∃ new,
    ws.gather m (done ++ rest) = ws.gather m done ++ new ∧ new.Sublist (ws.fired m rest) ∧
      ∀ a ∈ new, ∀ event ∈ done, (ws.firing a).isOn (ws.entity event).id = false := by
  obtain ⟨new, heq, hsub, hfresh⟩ := ws.exists_keepNew_eq (ws.gather m done) (ws.fired m rest)
  refine ⟨new, by rw [gather_append, heq], hsub, fun a ha event hevent => ?_⟩
  by_contra hon
  rw [Bool.not_eq_false] at hon
  obtain ⟨f, _, hf⟩ := (mem_fired ws m rest a).mp (hsub.subset ha)
  rw [arcsForEvent_of_isOn ws m _ _ false a hf hon] at hf
  obtain ⟨b, hfirst, hname⟩ :=
    Assoc.exists_isFirst ws.nameOf (ws.fired m done) a ((mem_fired ws m done a).mpr ⟨event, hevent, hf⟩)
  exact hfresh a ha b ((mem_gather_iff ws m done b).mpr hfirst) hname

/-- Among the arcs of all events, those on one come in the order in which they fire. -/
theorem filter_gather_sublist (eventId : String) :
    ((ws.gather m events).filter fun a => (ws.firing a).isOn eventId).Sublist
      (ws.arcsForEvent m eventId false).1 := by
  induction events using List.reverseRecOn with
  | nil => exact List.nil_sublist _
  | append_singleton done event ih =>
    obtain ⟨new, heq, hsub, hoff⟩ := exists_gather_append_eq ws m done [event]
    rw [fired, List.flatMap_singleton] at hsub
    rw [heq, List.filter_append]
    by_cases hon : ∃ a ∈ new, (ws.firing a).isOn eventId = true
    · -- Then nothing that is on the event was there before.
      obtain ⟨a, ha, hon⟩ := hon
      have hsame := arcsForEvent_of_isOn ws m _ _ false a (hsub.subset ha) hon
      have hnone : (ws.gather m done).filter (fun a => (ws.firing a).isOn eventId) = [] := by
        rw [List.filter_eq_nil_iff]
        intro b hb hbon
        obtain ⟨f, hf, hbf⟩ := (mem_fired ws m done b).mp ((mem_gather_iff ws m done b).mp hb).mem
        have hfires := hsub.subset ha
        rw [hsame, ← arcsForEvent_of_isOn ws m _ _ false b hbf hbon] at hfires
        have hthere := isOn_of_mem_arcsForEvent ws m _ false a hfires
        rw [hoff a ha f hf] at hthere
        cases hthere
      rw [hnone, List.nil_append, ← hsame]
      exact List.filter_sublist.trans hsub
    · have hnone : new.filter (fun a => (ws.firing a).isOn eventId) = [] := by
        rw [List.filter_eq_nil_iff]
        exact fun a ha honid => hon ⟨a, ha, honid⟩
      rw [hnone, List.append_nil]
      exact ih

theorem filter_collectArcs_sublist (eventId : String) :
    ((ws.collectArcs m events).1.filter fun a => (ws.firing a).isOn eventId).Sublist
      (ws.arcsForEvent m eventId false).1 := by
  rw [collectArcs_eq_gather]
  exact filter_gather_sublist ws m events eventId

/-- What an event adds to the arcs of earlier ones can be picked from the arcs of all. -/
theorem keepNew_filter_gather (done : List EntityRef) (event : EntityRef) (rest : List EntityRef) :
    ws.keepNew (ws.gather m done)
        ((ws.gather m (done ++ event :: rest)).filter fun a => (ws.firing a).isOn (ws.entity event).id) =
      ws.gather m (done ++ [event]) := by
  obtain ⟨new, hnew, hsub, _⟩ := exists_gather_append_eq ws m done [event]
  obtain ⟨later, hlater, _, hoff⟩ := exists_gather_append_eq ws m (done ++ [event]) rest
  rw [fired, List.flatMap_singleton] at hsub
  have hpicked : (ws.gather m (done ++ event :: rest)).filter (fun a => (ws.firing a).isOn (ws.entity event).id) =
      (ws.gather m done).filter (fun a => (ws.firing a).isOn (ws.entity event).id) ++ new := by
    have hon : new.filter (fun a => (ws.firing a).isOn (ws.entity event).id) = new :=
      List.filter_eq_self.mpr fun a ha => isOn_of_mem_arcsForEvent ws m _ false a (hsub.subset ha)
    have hnone : later.filter (fun a => (ws.firing a).isOn (ws.entity event).id) = [] :=
      List.filter_eq_nil_iff.mpr fun a ha => by simp [hoff a ha event (by simp)]
    rw [← List.singleton_append, ← List.append_assoc, hlater, hnew, List.filter_append, List.filter_append, hon, hnone,
      List.append_nil]
  have hnames := nodup_names_gather ws m (done ++ [event])
  rw [hnew] at hnames ⊢
  rw [hpicked, keepNew_append, keepNew_of_subset _ _ _ List.filter_sublist.subset, keepNew_of_fresh _ _ _ hnames]

/-- Picking arcs from those of all events, event by event, gives them all again, in their order. -/
theorem keepNew_picked : ws.keepNew [] (events.flatMap fun event =>
    (ws.gather m events).filter fun a => (ws.firing a).isOn (ws.entity event).id) = ws.gather m events := by
  -- By induction on the events that are done: the next one adds nothing that a later one would have added.
  have hpart : ∀ done rest, ws.keepNew [] (done.flatMap fun event =>
      (ws.gather m (done ++ rest)).filter fun a => (ws.firing a).isOn (ws.entity event).id) = ws.gather m done := by
    intro done
    induction done using List.reverseRecOn with
    | nil => exact fun _ => rfl
    | append_singleton done event ih =>
      intro rest
      rw [List.append_assoc, List.singleton_append, List.flatMap_append, List.flatMap_singleton, keepNew_append,
        ih (event :: rest), keepNew_filter_gather]
  have hall := hpart events []
  rwa [List.append_nil] at hall

end

/-! ## Arcs that their ids tell apart -/

/-- Arcs with one id that fire on the events leave and enter the same states on the same event and guard. -/
def NamesTell (ws : Workspace) (m : MachineRef) (events : List EntityRef) : Prop :=
  ∀ e ∈ events, ∀ f ∈ events, ∀ a ∈ (ws.arcsForEvent m (ws.entity e).id false).1,
    ∀ b ∈ (ws.arcsForEvent m (ws.entity f).id false).1, (ws.firing a).id = (ws.firing b).id →
      (ws.firing a).transition.fromId = (ws.firing b).transition.fromId ∧
      (ws.firing a).transition.toId = (ws.firing b).transition.toId ∧
      (ws.firing a).transition.eventId = (ws.firing b).transition.eventId ∧
      (ws.firing a).transition.guard = (ws.firing b).transition.guard

instance (ws : Workspace) (m : MachineRef) (events : List EntityRef) : Decidable (ws.NamesTell m events) :=
  inferInstanceAs (Decidable (∀ e ∈ events, ∀ f ∈ events, ∀ a ∈ _, ∀ b ∈ _, _))

theorem isFirst_of_namesTell {ws : Workspace} {m : MachineRef} {events : List EntityRef}
    (hsame : ws.NamesTell m events) (a : FiringArc) (ha : a ∈ ws.fired m events) :
    Assoc.IsFirst ws.nameOf (ws.fired m events) a := by
  obtain ⟨b, hfirst, hname⟩ := Assoc.exists_isFirst ws.nameOf (ws.fired m events) a ha
  obtain ⟨e, he, hae⟩ := (mem_fired ws m events a).mp ha
  obtain ⟨f, hf, hbf⟩ := (mem_fired ws m events b).mp hfirst.mem
  obtain ⟨hfrom, _, hevent, hguard⟩ := hsame e he f hf a hae b hbf hname.symm
  rwa [eq_of_mem_fired ws m events a b ha hfirst.mem hfrom hevent hguard]

/-- Among the collected arcs, those on a selected event are then exactly its arcs, in their order. -/
theorem filter_collectArcs {ws : Workspace} {m : MachineRef} {events : List EntityRef} (hsame : ws.NamesTell m events)
    (event : EntityRef) (he : event ∈ events) :
    (ws.collectArcs m events).1.filter (fun a => (ws.firing a).isOn (ws.entity event).id) =
      (ws.arcsForEvent m (ws.entity event).id false).1 := by
  refine (filter_collectArcs_sublist ws m events _).eq_of_length_le ?_
  have hnodup : (ws.arcsForEvent m (ws.entity event).id false).1.Nodup :=
    (nodup_keys_arcsForEvent ws m (ws.entity event).id false).of_map
  refine (hnodup.subperm fun a ha => List.mem_filter.mpr ⟨?_, isOn_of_mem_arcsForEvent ws m _ false a ha⟩).length_le
  exact (mem_collectArcs_iff ws m events a).mpr
    (isFirst_of_namesTell hsame a ((mem_fired ws m events a).mpr ⟨event, he, ha⟩))

end StateMachine.Workspace
