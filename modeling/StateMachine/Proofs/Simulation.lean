import StateMachine.Proofs.Extracted
import StateMachine.Proofs.Firing

/-!
# What fires in a new machine

An extraction carries over the states that the collected arcs leave and enter, in their order. The copies of the arcs
that fire on a selected event then fire in the new machine, one after the other as before.
-/

namespace StateMachine.Workspace

/-! ## Arcs that fire from concrete states -/

/-- No state of the machine has the id of `#ALL`, in any letter case. -/
def StatesConcrete (ws : Workspace) (m : MachineRef) : Prop :=
  ∀ s ∈ ws.members m .state, Text.upper (ws.entity s).id ≠ allStateId

instance (ws : Workspace) (m : MachineRef) : Decidable (ws.StatesConcrete m) :=
  inferInstanceAs (Decidable (∀ s ∈ ws.members m .state, Text.upper (ws.entity s).id ≠ allStateId))

section
variable {ws : Workspace} {m : MachineRef} (hx : (ws.machine m).Consistent ws.kindOf ws.entities.length)
  (hn : ws.Named m) (hconcrete : ws.StatesConcrete m)
include hx hn hconcrete

theorem leavesAll_of_mem_arcsForEvent (eventId : String) (a : FiringArc)
    (h : a ∈ (ws.arcsForEvent m eventId false).1) : (ws.firing a).leavesAll = false := by
  obtain ⟨⟨k, hmem⟩, _⟩ := candidate_of_mem_arcsForEvent ws m eventId false a h
  rw [states_eq_members hx hn] at hmem
  rcases candidates_cases ws m eventId false _ k a hmem with ⟨r, _, hleaves, _, rfl⟩ | ⟨_, w, _, s, hs, _, rfl, _⟩
  · exact hleaves.resolve_left (by simp)
  · exact beq_eq_false_iff_ne.mpr (hconcrete s hs)

end

/-! ## The new machine -/

namespace Extracted

section
variable {ws later : Workspace} {m clone : MachineRef} {events touched : List EntityRef}
  (h : Extracted ws later m clone events touched)
include h

theorem map_arcsOn (eventId : String) : (later.arcsOn clone eventId).map later.entity =
    ((ws.collectArcs m events).1.filter fun a => (ws.firing a).isOn eventId).map (ws.taken clone) := by
  have hcopies := congrArg (List.filter fun e => e.isOn eventId) h.arcs
  rw [List.filter_map, List.filter_map] at hcopies
  exact hcopies

variable (hx : (ws.machine m).Consistent ws.kindOf ws.entities.length) (hn : ws.Named m) (hb : ws.ArcsBelong m)
include hx hn hb

omit hx in
/-- The new machine has the states in the same order, under the same ids. -/
theorem states_sublist : (later.members clone .state).Sublist (ws.members m .state) := by
  rw [h.ordered hn hb]
  exact List.filter_sublist

theorem id_state (s : EntityRef) (hs : s ∈ later.members clone .state) : (later.entity s).id = (ws.entity s).id :=
  h.id_eq s (known_of_mem_members hx .state s ((h.states_sublist hn hb).subset hs)).1

variable (htouched : ws.touchedStates (ws.collectArcs m events).1 = .ok touched)
include htouched

/-- A copy leaves the state that its arc leaves, and enters the same state or the new `#ALL`. -/
theorem endpoints_taken (a : FiringArc) (ha : a ∈ (ws.collectArcs m events).1) :
    ∃ f t t', ws.endpoints? (ws.firing a) = some (f, t) ∧ f ∈ later.members clone .state ∧
      (t ∈ ws.members m .state → t' = t) ∧ later.endpoints? (ws.taken clone a) = some (f, t') := by
  obtain ⟨event, _, hfires⟩ := mem_collectArcs ws m events a ha
  obtain ⟨f, t, hends, hf, ht, hfrom, hto⟩ := endpoints_of_mem_arcsForEvent hx hn hb _ a hfires
  -- An endpoint is touched, unless it is `#ALL`, which each machine has of its own.
  have hcarried : ∀ s, s = f ∨ s = t → s ∈ ws.members m .state → s ∈ later.members clone .state := fun s hs hstate =>
    h.states.mem_iff.mpr (mem_touched_of_state hx hn ha hends hs htouched hstate)
  have hfound : ∀ s ∈ later.members clone .state,
      later.find clone .state (some (ws.entity s).id) = .ok (some s) := fun s hs => by
    rw [findState_iff h.consistent h.named, h.id_state hx hn hb s hs]
    exact ⟨Or.inr hs, rfl⟩
  have hf := hcarried f (Or.inl rfl) hf
  have hends' := endpoints?_eq_some_iff later clone (ws.taken clone a) rfl f
  rcases ht with rfl | ht
  · refine ⟨f, _, (later.machine clone).allState, hends, hf, fun hstate => ?_,
      (hends' _).mpr ⟨hfrom ▸ hfound f hf, ?_⟩⟩
    · exact absurd hstate (allState_not_mem hx hn .state)
    · rw [findState_iff h.consistent h.named, id_allState h.consistent h.named, ← id_allState hx hn]
      exact ⟨Or.inl rfl, hto⟩
  · exact ⟨f, t, t, hends, hf, fun _ => rfl,
      (hends' t).mpr ⟨hfrom ▸ hfound f hf, hto ▸ hfound t (hcarried t (Or.inr rfl) ht)⟩⟩

/-- Arcs that come in the order of their origins have copies in the order of theirs. -/
theorem originRank_taken_le (a a' : FiringArc) (ha : a ∈ (ws.collectArcs m events).1)
    (ha' : a' ∈ (ws.collectArcs m events).1) (hle : ws.originRank m a ≤ ws.originRank m a') :
    later.originRank clone (.derived (ws.taken clone a)) ≤ later.originRank clone (.derived (ws.taken clone a')) := by
  obtain ⟨f, t, t', hends₁, hf, _, hclone₁⟩ := h.endpoints_taken hx hn hb htouched a ha
  obtain ⟨g, u, u', hends₂, hg, _, hclone₂⟩ := h.endpoints_taken hx hn hb htouched a' ha'
  have hranked := (pairwise_rankOf_members hx hn).sublist (h.states_sublist hn hb)
  have hranked' := pairwise_rankOf_members h.consistent h.named
  rw [originRank, originRank, hends₁, hends₂] at hle
  rw [originRank, originRank, firing, firing, hclone₁, hclone₂]
  exact le_of_ascending _ _ _ hranked hranked' f g hf hg hle

theorem pairwise_originRank (eventId : String) : (later.arcsOn clone eventId).Pairwise fun r s =>
    later.originRank clone (.declared r) ≤ later.originRank clone (.declared s) := by
  have hranked := sorted_pairwise (ws.originRank m) (ws.found m eventId false (ws.members m .state))
  rw [← arcsForEvent_eq_ranked hx hn hb] at hranked
  have hcopies : (((ws.collectArcs m events).1.filter fun a => (ws.firing a).isOn eventId).map
      (ws.taken clone)).Pairwise fun d e =>
        later.originRank clone (.derived d) ≤ later.originRank clone (.derived e) := by
    rw [List.pairwise_map]
    refine (hranked.sublist (filter_collectArcs_sublist ws m events eventId)).imp_of_mem fun ha ha' hle => ?_
    exact h.originRank_taken_le hx hn hb htouched _ _ (List.mem_filter.mp ha).1 (List.mem_filter.mp ha').1 hle
  rw [← h.map_arcsOn, List.pairwise_map] at hcopies
  exact hcopies

variable (hconcrete : ws.StatesConcrete m)
include hconcrete

omit hb htouched in
theorem leavesAll_of_mem_arcs (r : EntityRef) (hr : r ∈ later.members clone .arc) :
    (later.entity r).leavesAll = false := by
  obtain ⟨a, ha, heq⟩ := h.exists_taken r hr
  obtain ⟨event, _, hfires⟩ := mem_collectArcs ws m events a ha
  rw [heq]
  exact leavesAll_of_mem_arcsForEvent hx hn hconcrete _ a hfires

/-- The copies have different keys and come in order, so that they fire as they stand. -/
theorem arcsForEvent_eq (eventId : String) (raw : Bool) :
    (later.arcsForEvent clone eventId raw).1 = (later.arcsOn clone eventId).map .declared := by
  refine arcsForEvent_of_ordered h.consistent h.named h.belong eventId raw ?_ ?_ ?_
    (h.pairwise_originRank hx hn hb htouched eventId)
  · have hkeys := congrArg (List.map arcKey) (h.map_arcsOn eventId)
    rw [List.map_map, List.map_map] at hkeys
    refine (congrArg List.Nodup hkeys).mpr ?_
    exact (nodup_keys_arcsForEvent ws m eventId false).sublist
      ((filter_collectArcs_sublist ws m events eventId).map _)
  · exact fun r hr => h.leavesAll_of_mem_arcs hx hn hconcrete r (List.mem_filter.mp hr).1
  · intro r hr
    obtain ⟨a, ha, heq⟩ := h.exists_taken r (List.mem_filter.mp hr).1
    obtain ⟨f, _, t', _, _, _, hends⟩ := h.endpoints_taken hx hn hb htouched a ha
    rw [heq, hends]
    rfl

end

end Extracted

/-! ## Before and after -/

theorem Agrees.map_copyOf_eq {ws ws' : Workspace} {m : MachineRef} (h : Agrees ws ws' m)
    (hx : (ws.machine m).Consistent ws.kindOf ws.entities.length)
    (hx' : (ws'.machine m).Consistent ws'.kindOf ws'.entities.length) (hn : ws.Named m) (hb : ws.ArcsBelong m)
    (eventId : String) (raw : Bool) :
    (ws'.arcsForEvent m eventId raw).1.map ws'.copyOf = (ws.arcsForEvent m eventId raw).1.map ws.copyOf := by
  rw [h.arcsForEvent_eq hx hb hx' hn]
  apply List.map_congr_left
  intro a ha
  rw [copyOf, h.firing_of_mem_arcsForEvent eventId raw a ha, copyOf]

section
variable {ws ready made later : Workspace} {m : MachineRef} {specifiers : List String} {events touched : List EntityRef}
  (hc : ws.Consistent) (hm : m.index < ws.machines.length)
  (hselected : ws.matchingEvents m specifiers = .ok events)
  (htouched : ws.touchedStates (ws.collectArcs m events).1 = .ok touched) (hready : Ready ws m events ready)
  (hmade : made = ready.cloned m events (ready.byNumber touched) (ws.collectArcs m events).1)
  (hcmade : made.Consistent) (hlater : later.bare = made.bare)
include hc hm hselected htouched hready hmade hcmade hlater

theorem agrees_later :
    Agrees ws later m ∧ (later.machine m).Consistent later.kindOf later.entities.length := by
  have hmmade : m.index < made.machines.length := by
    rw [hmade, length_machines_cloned, length_machines_of_bare_eq hready.bare_eq]
    exact Nat.lt_succ_of_lt hm
  exact ⟨(extracted_of_made hc hm hselected htouched hready hmade hcmade hlater).source,
    consistent_machine_of_bare_eq hcmade hmmade hlater⟩

variable (hn : ws.Named m) (hb : ws.ArcsBelong m)
  (hconcrete : ws.StatesConcrete m)
  (hsame : ws.NamesTell m events)
include hn hb hconcrete hsame

/-- The new machine answers copies of the arcs that fired in the old one. -/
theorem arcsForEvent_later (event : EntityRef) (he : event ∈ events) (raw : Bool) :
    (later.arcsForEvent ready.nextMachine (ws.entity event).id raw).1.map later.copyOf =
      ((ws.arcsForEvent m (ws.entity event).id false).1.map ws.copyOf).map Entity.named ∧
    later.allStateArc? ready.nextMachine (ws.entity event).id = none := by
  have hx := hc.machine m hm
  have h := extracted_of_made hc hm hselected htouched hready hmade hcmade hlater
  constructor
  · have hcopies := congrArg (List.map fun e : Entity => { e with machine := none }) (h.map_arcsOn (ws.entity event).id)
    rw [filter_collectArcs hsame event he, List.map_map, List.map_map] at hcopies
    rw [h.arcsForEvent_eq hx hn hb htouched hconcrete, List.map_map, List.map_map]
    exact hcopies
  · rw [allStateArc?_eq_none_iff, wildcardsOn, List.filter_eq_nil_iff]
    intro r hr
    rw [h.leavesAll_of_mem_arcs hx hn hconcrete r (List.mem_filter.mp hr).1]
    simp

end

/-- After an extraction the arcs of a selected event say what they said before, and the new machine answers the same
arcs, expanded or not. A copy of an arc that names no constant gets the default one. -/
theorem arcsForEvent_extract (ws ws' later : Workspace) (m clone : MachineRef) (specifiers : List String)
    (events : List EntityRef) (event : EntityRef) (hreach : ws.Reachable) (hb : ws.ArcsBelong m) (hn : ws.Named m)
    (hconcrete : ws.StatesConcrete m)
    (hselected : ws.matchingEvents m specifiers = .ok events) (hsame : ws.NamesTell m events)
    (hextract : ws.extract m specifiers = (ws', .ok clone)) (hlater : later.bare = ws'.bare) (he : event ∈ events) :
    let id := (later.entity event).id
    let fired := (later.arcsForEvent m id false).1.map later.copyOf
    fired = (ws.arcsForEvent m (ws.entity event).id false).1.map ws.copyOf ∧
      (∀ raw, (later.arcsForEvent clone id raw).1.map later.copyOf = fired.map Entity.named) ∧
      later.allStateArc? clone id = none := by
  have hc := hreach.consistent
  have hmember := (matchingEvents_sublist ws m specifiers events hselected).subset he
  have hm := lt_of_mem_members ws m .event event hmember
  have hx := hc.machine m hm
  obtain ⟨touched, ready, made, htouched, hready, hmade, hcmade, hbare, rfl⟩ :=
    cloned_of_extract hc hm hselected hextract
  have hlater := hlater.trans hbare
  obtain ⟨hold, hxlater⟩ := agrees_later hc hm hselected htouched hready hmade hcmade hlater
  have hnew := arcsForEvent_later hc hm hselected htouched hready hmade hcmade hlater hn hb hconcrete hsame event he
  have hfired := hold.map_copyOf_eq hx hxlater hn hb (ws.entity event).id false
  rw [hold.id_eq hx .event event hmember]
  intro id fired
  have hfired : fired = _ := hfired
  rw [hfired]
  exact ⟨rfl, fun raw => (hnew raw).1, (hnew false).2⟩

/-- A machine with an arc that was made to name no constant. -/
def unnamed : Workspace := (filled "m"
  [{ id := "s", detail := .state [] [] none }, { id := "t", detail := .state [] [] none },
   { id := "go", detail := .event none },
   { id := "w", detail := .arc { fromId := some "#ALL", toId := some "s", eventId := some "go" } },
   { id := "a", detail := .arc { fromId := some "s", toId := some "t", eventId := some "go" } }]).perform
  (.edit ⟨5⟩ { apply := fun e => { e with enumId := none }, kind_apply := fun _ => rfl })

theorem extract_unnamed : unnamed.extract ⟨0⟩ [] = ((unnamed.extract ⟨0⟩ []).1, .ok ⟨1⟩) :=
  extract_of_toOption unnamed ⟨0⟩ ⟨1⟩ [] (by decide +kernel)

theorem arcsForEvent_extract_unnamed :
    let ws' := (unnamed.extract ⟨0⟩ []).1
    let fired := (ws'.arcsForEvent ⟨0⟩ (ws'.entity ⟨3⟩).id false).1.map ws'.copyOf
    unnamed.ArcsBelong ⟨0⟩ ∧ unnamed.Named ⟨0⟩ ∧ unnamed.NamesTell ⟨0⟩ (unnamed.members ⟨0⟩ .event) ∧
      ⟨3⟩ ∈ unnamed.members ⟨0⟩ .event ∧
      ∀ raw, (ws'.arcsForEvent ⟨1⟩ (ws'.entity ⟨3⟩).id raw).1.map ws'.copyOf = fired.map Entity.named := by
  refine ⟨by decide +kernel, by decide +kernel, by decide +kernel, by decide +kernel, ?_⟩
  exact (arcsForEvent_extract unnamed _ _ ⟨0⟩ ⟨1⟩ [] _ ⟨3⟩ (reachable_perform _ _ (reachable_filled _ _))
    (by decide +kernel) (by decide +kernel) (by decide +kernel) rfl (by decide +kernel) extract_unnamed rfl
    (by decide +kernel)).2.1

/-- A copy need not say what its arc says: it has the default constant where the arc names none. -/
theorem arcsForEvent_extract_not_same :
    ¬ ∀ (ws ws' : Workspace) (m clone : MachineRef) (specifiers : List String) (events : List EntityRef)
        (event : EntityRef), ws.Reachable → ws.ArcsBelong m → ws.Named m →
      ws.StatesConcrete m →
      ws.matchingEvents m specifiers = .ok events → ws.NamesTell m events →
      ws.extract m specifiers = (ws', .ok clone) → event ∈ events →
      (ws'.arcsForEvent clone (ws'.entity event).id false).1.map ws'.copyOf =
        (ws'.arcsForEvent m (ws'.entity event).id false).1.map ws'.copyOf := by
  intro h
  have hsame := h unnamed _ ⟨0⟩ ⟨1⟩ [] _ ⟨3⟩ (reachable_perform _ _ (reachable_filled _ _)) (by decide +kernel)
    (by decide +kernel) (by decide +kernel) rfl (by decide +kernel) extract_unnamed (by decide +kernel)
  have hnames := congrArg (List.map Entity.enumId) hsame
  exact absurd hnames (by decide +kernel)

end StateMachine.Workspace
