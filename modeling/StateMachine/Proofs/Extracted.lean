import StateMachine.Proofs.Clashing

/-!
# What an extraction leaves behind

The new machine holds the selected events, the touched states in their order, copies of the collected arcs, and all
classes and actions. The entities that it shares keep what they say, and so does the head.
-/

namespace StateMachine

namespace Entity

variable (e : Entity)

/-- The entity, belonging to no machine. -/
def detached : Entity := { e with machine := none }

theorem unnumbered_withMachine (owner : Option MachineRef) :
    { e with machine := owner }.unnumbered = { e.unnumbered with machine := owner } := by
  cases hd : e.detail <;> simp [unnumbered, withNumber, hd]

@[simp]
theorem eventType_unnumbered : e.unnumbered.eventType = e.eventType := by
  cases hd : e.detail <;> simp [unnumbered, withNumber, eventType, hd]

end Entity

namespace Workspace

theorem firing_of_mem_collectArcs {ws ws' : Workspace} {m : MachineRef} (h : Agrees ws ws' m)
    (events : List EntityRef) (a : FiringArc) (ha : a ∈ (ws.collectArcs m events).1) :
    ws'.firing a = ws.firing a := by
  rcases cases_of_mem_collectArcs ws m events a ha with ⟨r, hr, rfl⟩ | ⟨_, _, _, rfl⟩
  · exact h.arcs r hr
  · rfl

/-- The copy of an arc, as it belongs to a new machine. -/
def taken (ws : Workspace) (clone : MachineRef) (a : FiringArc) : Entity :=
  { (ws.copyOf a).named with machine := some clone }

/-- What is known of the machine that an extraction has made, as long as only numbers and warnings change. -/
structure Extracted (ws later : Workspace) (m clone : MachineRef) (events touched : List EntityRef) : Prop where
  source : Agrees ws later m
  inRange : clone.index < later.machines.length
  consistent : (later.machine clone).Consistent later.kindOf later.entities.length
  named : later.Named clone
  belong : later.ArcsBelong clone
  head : (later.machine clone).head = Head.copied (ws.machine m).head
  reserved : (later.machine clone).registry.reserved = (ws.machine m).head.id
  arcs : (later.members clone .arc).map later.entity = (ws.collectArcs m events).1.map (ws.taken clone)
  events : later.members clone .event = events
  states : (later.members clone .state).Perm touched
  ordered : ws.Named m → ws.ArcsBelong m →
    later.members clone .state = (ws.members m .state).filter (· ∈ touched)
  bundles : later.members clone .bundle = ws.members m .bundle
  actions : later.members clone .action = ws.members m .action
  shared : ∀ r, r.index < ws.entities.length →
    (later.entity r).unnumbered.detached = (ws.entity r).unnumbered.detached

/-! ## The states that are carried over -/

section
variable {ws ready : Workspace} {m : MachineRef} {events touched : List EntityRef}
  (hc : ws.Consistent) (hm : m.index < ws.machines.length) (hn : ws.Named m) (hb : ws.ArcsBelong m)
  (htouched : ws.touchedStates (ws.collectArcs m events).1 = .ok touched) (hready : Ready ws m events ready)
include hc hm hn hb htouched hready

/-- The touched states are members, and their numbers are their places. -/
theorem numberOf_touched (s : EntityRef) (hs : s ∈ touched) :
    s ∈ ws.members m .state ∧ ready.numberOf s = ws.rankOf m s := by
  obtain ⟨hconcrete, a, ha, f, t, hends, hst⟩ := ((touched_collected htouched).2 s).mp hs
  obtain ⟨event, hevent, _⟩ := mem_collectArcs ws m events a ha
  have hstate := mem_states_of_touched (hc.machine m hm) hn hb ha hends hst hconcrete
  refine ⟨hstate, ?_⟩
  rw [← numberOf_collectArcs hc hm hn events (List.ne_nil_of_mem hevent) s (Or.inr hstate), numberOf, numberOf,
    entity_eq, entity_eq, hready.entities_eq]

/-- Sorted by their numbers, they are in the order of their addition. -/
theorem byNumber_touched : ready.byNumber touched = (ws.members m .state).filter (· ∈ touched) := by
  have hx := hc.machine m hm
  have hnumber := numberOf_touched hc hm hn hb htouched hready
  -- Both lists hold the same states, and the second one ascends.
  refine sorted_of_perm ready.numberOf touched _ ?_ ?_
  · rw [List.perm_ext_iff_of_nodup (touched_collected htouched).1 ((nodup_members hx hn .state).filter _)]
    intro s
    rw [List.mem_filter, decide_eq_true_eq]
    exact ⟨fun hs => ⟨(hnumber s hs).1, hs⟩, fun hs => hs.2⟩
  · refine ((pairwise_rankOf_members hx hn).filter _).imp_of_mem fun {s t} hs ht hlt => ?_
    rw [List.mem_filter, decide_eq_true_eq] at hs ht
    rwa [(hnumber s hs.2).2, (hnumber t ht.2).2]

end

/-! ## The new machine -/

theorem detached_takingAll (ws : Workspace) (m n : MachineRef) (arcs : List FiringArc) (refs : List EntityRef)
    (r : EntityRef) (h : r.index < ws.entities.length) :
    (((ws.stocked m arcs).takingAll n refs).entity r).unnumbered.detached = (ws.entity r).unnumbered.detached := by
  rw [← entity_stocked_old ws m arcs r h]
  refine entity_takingAll_congr _ _ _ (fun e => e.unnumbered.detached) ?_ r
  intro e
  rw [Entity.unnumbered_withMachine]
  rfl

/-- An extraction that succeeds leaves the new machine behind, apart from the journal. -/
theorem cloned_of_extract {ws ws' : Workspace} {m clone : MachineRef} {specifiers : List String}
    {events : List EntityRef} (hc : ws.Consistent) (hm : m.index < ws.machines.length)
    (hselected : ws.matchingEvents m specifiers = .ok events) (hextract : ws.extract m specifiers = (ws', .ok clone)) :
    ∃ touched ready made, ws.touchedStates (ws.collectArcs m events).1 = .ok touched ∧ Ready ws m events ready ∧
      made = ready.cloned m events (ready.byNumber touched) (ws.collectArcs m events).1 ∧ made.Consistent ∧
      ws'.bare = made.bare ∧ clone = ready.nextMachine := by
  obtain ⟨touched, ready, htouched, hready, ⟨_, journal, hok⟩ | ⟨_, _, _, _, herror, _⟩⟩ :=
    extract_of_matching ws m specifiers events hc hm hselected
  · have hextracted := consistent_extract ws m specifiers hc
    obtain ⟨hws', hclone⟩ := Prod.mk.inj (hok.symm.trans hextract)
    have hbare : ws'.bare = (ready.cloned m events (ready.byNumber touched) (ws.collectArcs m events).1).bare := by
      rw [← hws']
      rfl
    rw [hextract] at hextracted
    exact ⟨touched, ready, _, htouched, hready, rfl, consistent_of_bare_eq hbare.symm hextracted, hbare,
      (Except.ok.inj hclone).symm⟩
  · rw [hextract] at herror
    cases (Prod.mk.inj herror).2

theorem extracted_of_made {ws ready made later : Workspace} {m : MachineRef} {specifiers : List String}
    {events touched : List EntityRef} (hc : ws.Consistent) (hm : m.index < ws.machines.length)
    (hselected : ws.matchingEvents m specifiers = .ok events)
    (htouched : ws.touchedStates (ws.collectArcs m events).1 = .ok touched) (hready : Ready ws m events ready)
    (hmade : made = ready.cloned m events (ready.byNumber touched) (ws.collectArcs m events).1)
    (hcmade : made.Consistent) (hlater : later.bare = made.bare) :
    Extracted ws later m ready.nextMachine events touched := by
  have p := parts_of_ready hc hm hselected htouched hready
  have hnext : ready.nextMachine.index < made.machines.length := by
    rw [hmade, length_machines_cloned]
    exact Nat.lt_succ_self _
  have hagrees := Agrees.of_bare_eq hlater (hcmade.machine _ hnext)
  have hready' := Agrees.of_bare_eq hready.bare_eq (hc.machine m hm)
  have hmembers := members_cloned p
  rw [← hmade] at hmembers
  have hstates : later.members ready.nextMachine .state = ready.byNumber touched := by
    rw [hagrees.members_eq, hmembers]
    simp
  have hmmade : m.index < made.machines.length := by
    rw [hmade, length_machines_cloned]
    exact Nat.lt_succ_of_lt p.inRange
  have hassembled := agrees_cloned p
  rw [← hmade] at hassembled
  refine ⟨(hready'.trans hassembled).trans (Agrees.of_bare_eq hlater (hcmade.machine m hmmade)), ?_,
    consistent_machine_of_bare_eq hcmade hnext hlater, ?_, ?_, ?_, ?_, ?_, ?_, ?_, ?_, ?_, ?_, ?_⟩
  · rw [length_machines_of_bare_eq hlater]
    exact hnext
  · exact hagrees.named (hmade ▸ named_cloned)
  · exact hagrees.arcsBelong (hmade ▸ arcsBelong_cloned p)
  · rw [head_of_bare_eq hlater, hmade, machine_cloned_new, headFor, head_of_bare_eq hready.bare_eq]
  · rw [hagrees.registry_eq, hmade, machine_cloned_new, head_of_bare_eq hready.bare_eq]
  · have hcopies : ∀ a ∈ (ws.collectArcs m events).1, ready.copyOf a = ws.copyOf a := fun a ha => by
      rw [copyOf, firing_of_mem_collectArcs hready' events a ha, copyOf]
    have hmapped := map_entity_cloned p
    rw [← hmade, ← members_cloned_arc p, ← hmade] at hmapped
    rw [hagrees.members_eq, List.map_congr_left hagrees.arcs, hmapped]
    exact List.map_congr_left fun a ha => by rw [hcopies a ha, taken]
  · rw [hagrees.members_eq, hmembers]
    simp
  · rw [hstates]
    exact sorted_perm _ touched
  · intro hn hb
    rw [hstates, byNumber_touched hc hm hn hb htouched hready]
  · rw [hagrees.members_eq, hmembers]
    simpa using hready'.members_eq .bundle
  · rw [hagrees.members_eq, hmembers]
    simpa using hready'.members_eq .action
  · intro r hr
    rw [unnumbered_of_bare_eq hlater, hmade, cloned,
      detached_takingAll _ _ _ _ _ r (by rwa [length_entities_of_bare_eq hready.bare_eq]),
      unnumbered_of_bare_eq hready.bare_eq]

/-- What an extraction makes, and what it leaves alone. -/
theorem extracted_of_extract {ws ws' later : Workspace} {m clone : MachineRef} {specifiers : List String}
    {events : List EntityRef} (hc : ws.Consistent) (hm : m.index < ws.machines.length)
    (hselected : ws.matchingEvents m specifiers = .ok events) (hextract : ws.extract m specifiers = (ws', .ok clone))
    (hlater : later.bare = ws'.bare) :
    ∃ touched, ws.touchedStates (ws.collectArcs m events).1 = .ok touched ∧
      Extracted ws later m clone events touched := by
  obtain ⟨touched, ready, made, htouched, hready, hmade, hcmade, hbare, rfl⟩ :=
    cloned_of_extract hc hm hselected hextract
  exact ⟨touched, htouched,
    extracted_of_made hc hm hselected htouched hready hmade hcmade (hlater.trans hbare)⟩

namespace Extracted

variable {ws later : Workspace} {m clone : MachineRef} {events touched : List EntityRef}
  (h : Extracted ws later m clone events touched)
include h

/-- What an entity says besides its number and its machine stays. -/
theorem same_of_shared {β : Type} (g : Entity → β) (hg : ∀ e, g e.unnumbered.detached = g e) (r : EntityRef)
    (hr : r.index < ws.entities.length) : g (later.entity r) = g (ws.entity r) := by
  rw [← hg, h.shared r hr, hg]

theorem id_eq (r : EntityRef) (hr : r.index < ws.entities.length) : (later.entity r).id = (ws.entity r).id :=
  h.same_of_shared Entity.id Entity.id_unnumbered r hr

theorem eventType_eq (r : EntityRef) (hr : r.index < ws.entities.length) :
    (later.entity r).eventType = (ws.entity r).eventType :=
  h.same_of_shared Entity.eventType Entity.eventType_unnumbered r hr

theorem exists_taken (r : EntityRef) (hr : r ∈ later.members clone .arc) :
    ∃ a ∈ (ws.collectArcs m events).1, later.entity r = ws.taken clone a := by
  have hcopy : later.entity r ∈ (later.members clone .arc).map later.entity := List.mem_map_of_mem hr
  rw [h.arcs] at hcopy
  obtain ⟨a, ha, heq⟩ := List.mem_map.mp hcopy
  exact ⟨a, ha, heq.symm⟩

theorem exists_copy (a : FiringArc) (ha : a ∈ (ws.collectArcs m events).1) :
    ∃ r ∈ later.members clone .arc, later.entity r = ws.taken clone a := by
  have hcopy : ws.taken clone a ∈ (later.members clone .arc).map later.entity := by
    rw [h.arcs]
    exact List.mem_map_of_mem ha
  exact List.mem_map.mp hcopy

/-- The arcs of the new machine say what the collected ones say. -/
theorem transitions_eq : (later.members clone .arc).map (fun r => (later.entity r).transition) =
    (ws.collectArcs m events).1.map fun a => (ws.firing a).transition := by
  have heq := congrArg (List.map Entity.transition) h.arcs
  rw [List.map_map, List.map_map] at heq
  exact heq

end Extracted

end Workspace

end StateMachine
