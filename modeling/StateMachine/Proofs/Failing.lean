import StateMachine.Proofs.Handing
import StateMachine.Proofs.Inheriting

/-!
# What a failed extraction leaves behind

If events cannot be selected, nothing has changed. Else entities were handed over one by one, and nothing takes them
back: they stay with the unfinished machine. All others keep their owner, and with it what their lookups answer.
-/

namespace StateMachine.Workspace

/-! ## Entities that keep their owner -/

namespace Handed

variable {ws ws' : Workspace} {m : MachineRef} {handed : List EntityRef} (h : Handed ws ws' m handed)
  (hc : ws.Consistent)
include h hc

theorem find_eq (n : MachineRef) (hn : n.index < ws.machines.length) (kind : Kind) (id : Option String) :
    ws'.find n kind id = ws.find n kind id := by
  have hregistry := congrArg Machine.registry (h.machine n hn)
  refine find_congr kind id (congrArg Registry.entries hregistry) fun entry he => ?_
  exact h.kindOf_eq entry.2 ((hc.machine n hn).known entry he)

variable (hplaced : ws.Placed)
include hplaced

theorem findsAs (r : EntityRef) (hr : r.index < ws.entities.length) (hnot : r ∉ handed) : FindsAs ws r ws' r := by
  have hfind : ∀ kind id, ws'.findFrom (ws'.entity r) kind id = ws.findFrom (ws.entity r) kind id := by
    intro kind id
    rw [findFrom, findFrom, h.machine_of_not_mem r hr hnot]
    cases hmachine : (ws.entity r).machine with
    | none => rfl
    | some n => exact h.find_eq hc n ((placed_iff ws).mp hplaced r n hmachine) kind id
  exact findsAs_of_links (h.same Entity.links Entity.links_unnumbered r hr) (fun id _ => hfind .bundle (some id))
    fun id _ => hfind .action (some id)

omit h in
theorem known_of_namesClass (r c : EntityRef) (hnames : ws.NamesClass r c) : c.index < ws.entities.length := by
  obtain ⟨classes, hclasses, hmem⟩ := hnames
  obtain ⟨id, _, hfound⟩ := mem_of_findAll hclasses c hmem
  unfold findFrom at hfound
  split at hfound
  case h_1 n hmachine =>
    have hx := hc.machine n ((placed_iff ws).mp hplaced r n hmachine)
    obtain ⟨_, _, hentry, _⟩ := (find_eq_some_iff hx .bundle _ c).mp hfound
    exact hx.known _ hentry
  case h_2 => cases hfound

/-- An entity answers as it did if nothing that it can inherit from was handed over. -/
theorem answers (r : EntityRef) (hr : r.index < ws.entities.length) (hnone : ∀ c, ws.Inherits r c → c ∉ handed) :
    Answers ws r ws' r := by
  have hknown : ∀ c, ws.Inherits r c → c.index < ws.entities.length := by
    intro c hc'
    rcases Relation.ReflTransGen.cases_tail hc' with rfl | ⟨b, _, hnames⟩
    · exact hr
    · exact known_of_namesClass hc hplaced b c hnames
  have hlinks : ∀ c, ws.Inherits r c → (ws'.entity c).links = (ws.entity c).links := fun c hc' =>
    h.same Entity.links Entity.links_unnumbered c (hknown c hc')
  have halike : Alike ws ws' (ws.Inherits r) := by
    refine ⟨hknown, fun c hc' => congrArg Links.attrs (hlinks c hc'), ?_, ?_⟩
    · exact fun c hc' => (h.findsAs hc hplaced c (hknown c hc') (hnone c hc')).classes
    · exact fun c classes hc' hclasses d hd => hc'.tail ⟨classes, hclasses, hd⟩
  have hself : ws.Inherits r r := Relation.ReflTransGen.refl
  exact halike.answers hr h.grown (hlinks r hself) (h.findsAs hc hplaced r hr (hnone r hself))
    (fun classes hclasses => halike.closed r classes hself hclasses) fun _ _ => Iff.rfl

end Handed

/-! ## Where it stops -/

section
variable {ws : Workspace} {m : MachineRef} {events states : List EntityRef} {arcs : List FiringArc}
  (p : Parts ws m events states arcs) (hn : ws.Named m)
  (hown : (ws.machine m).head.id = (ws.machine m).registry.reserved)
  (hevents : events.Sublist (ws.members m .event)) (hstates : ∀ s ∈ states, s ∈ ws.members m .state)
  (hnodup : states.Nodup)
include p hn hown hevents hstates hnodup

/-- In a machine whose names are in order, nothing is refused before all events and states are handed over. -/
theorem prefix_of_stuck {before after : List EntityRef} {r : EntityRef}
    (hbatch : ws.batch m events states arcs = before ++ r :: after)
    (hstuck : (ws.stocked m arcs).Stuck ws.nextMachine before r) : events ++ states <+: before := by
  rw [batch_eq ws m arcs events states p.inRange, List.append_assoc (events ++ states)] at hbatch
  rcases List.append_eq_append_iff.mp hbatch with ⟨more, rfl, _⟩ | ⟨more, hsplit, hrest⟩
  · exact List.prefix_append _ _
  cases more with
  | nil =>
    rw [hsplit, List.append_nil]
  | cons s more =>
    -- Then the entity that is refused is shared, but shared entities have different ids.
    obtain ⟨rfl, _⟩ := List.cons.inj hrest
    have hold : ∀ s ∈ events ++ states, ((ws.stocked m arcs).entity s).id = (ws.entity s).id := fun s hs => by
      rw [entity_stocked_old ws m arcs s (p.old s (Or.inl hs))]
    have hids := nodup_shared p.consistent hn hown hevents hstates hnodup
    have hclash := hstuck.clash
    rw [machine_stocked_new, takenIds_stocked, List.mem_singleton] at hclash
    have hcount := two_le_count (ws.machine m).head.id ((ws.stocked m arcs).idsOf before)
      ((ws.stocked m arcs).idsOf more ++ ws.idsOf (ws.members m .bundle ++ ws.members m .action)) _ hclash
    have hsame : (ws.stocked m arcs).idsOf (events ++ states) = ws.idsOf (events ++ states) :=
      List.map_congr_left hold
    rw [shared, idsOf, List.map_append, ← idsOf, ← idsOf, ← hsame, hsplit, idsOf, List.map_append, List.map_cons,
      List.append_assoc, List.cons_append] at hids
    have hone := List.nodup_iff_count_le_one.mp hids ((ws.stocked m arcs).entity r).id
    exact absurd (hcount.trans hone) (by decide)

end

/-- The unfinished machine has registered its state `#ALL` and what it took over. -/
theorem registered_takingAll (ws : Workspace) (m : MachineRef) (arcs : List FiringArc) (refs : List EntityRef) :
    ((ws.stocked m arcs).takingAll ws.nextMachine refs).registered ws.nextMachine = ⟨ws.entities.length⟩ :: refs := by
  rw [registered, Registry.entities, machine_takingAll_self _ _ _ (nextMachine_lt_stocked ws m arcs),
    machine_stocked_new, List.map_append, List.map_map]
  exact congrArg _ (List.map_id _)

section
variable {ws ready : Workspace} {m : MachineRef} {specifiers : List String} {events touched : List EntityRef}
  (hc : ws.Consistent) (hm : m.index < ws.machines.length) (hselected : ws.matchingEvents m specifiers = .ok events)
  (htouched : ws.touchedStates (ws.collectArcs m events).1 = .ok touched) (hready : Ready ws m events ready)
include hc hm hselected htouched hready

theorem prefix_of_ready (hb : ws.ArcsBelong m) (hn : ws.Named m)
    (hown : (ws.machine m).head.id = (ws.machine m).registry.reserved) {before after : List EntityRef} {r : EntityRef}
    (hbatch : ready.batch m events (ready.byNumber touched) (ws.collectArcs m events).1 = before ++ r :: after)
    (hstuck : (ready.stocked m (ws.collectArcs m events).1).Stuck ready.nextMachine before r) :
    events ++ ready.byNumber touched <+: before := by
  have hx := hc.machine m hm
  have hagrees := Agrees.of_bare_eq hready.bare_eq hx
  obtain ⟨hnodup, hmem⟩ := touched_collected htouched
  refine prefix_of_stuck (parts_of_ready hc hm hselected htouched hready) (hagrees.named hn) ?_ ?_ ?_ ?_ hbatch hstuck
  · rw [head_of_bare_eq hready.bare_eq, hagrees.registry_eq, hown]
  · rw [hagrees.members_eq]
    exact matchingEvents_sublist ws m specifiers events hselected
  · intro s hs
    obtain ⟨hconcrete, a, ha, f, t, hends, hst⟩ := (hmem s).mp ((mem_sorted _ _ s).mp hs)
    rw [hagrees.members_eq]
    exact mem_states_of_touched hx hn hb ha hends hst hconcrete
  · exact (sorted_perm _ touched).nodup_iff.mpr hnodup

end

/-! ## After a failure -/

/-- Of the batch, what precedes the entity that is refused is handed over; nothing is if there is no new machine. -/
theorem handed_of_failed {ws ws' ready : Workspace} {m : MachineRef} {events states : List EntityRef}
    {arcs : List FiringArc} {fault : Fault} (p : Parts ready m events states arcs) (h : Renumbered ws ready m)
    (hending : Ending ready m events states arcs (ws', .error fault)) :
    ∃ before, Handed ws ws' m (before.filter fun r => r.index < ready.entities.length) ∧
      before <+: ready.batch m events states arcs ∧
      (ws'.registered ready.nextMachine).filter (fun r => r.index < ready.entities.length) =
        before.filter (fun r => r.index < ready.entities.length) ∧
      (∃ id existing new, fault = .duplicateIdentifier id existing new (ready.machine m).head.id) ∧
      ((ready.machine m).head.id = some allStateId ∨
        ∃ r after, ready.batch m events states arcs = before ++ r :: after ∧
          (ready.stocked m arcs).Stuck ready.nextMachine before r) := by
  cases hending with
  | refused hid =>
    have hnone : ws'.registered ws'.nextMachine = [] := by
      rw [registered, machine_eq, nextMachine, List.getElem?_eq_none (Nat.le_refl _)]
      rfl
    refine ⟨[], h.handed, List.nil_prefix, ?_, ⟨_, _, _, rfl⟩, Or.inl hid⟩
    rw [hnone]
  | stuck _ before r after existing new hbatch hstuck =>
    refine ⟨before, handed_takingAll p h before (r :: after) hbatch, hbatch ▸ List.prefix_append _ _, ?_,
      ⟨_, _, _, rfl⟩, Or.inr ⟨r, after, hbatch, hstuck⟩⟩
    rw [registered_takingAll, List.filter_cons_of_neg]
    rw [decide_eq_true_eq]
    exact Nat.lt_irrefl _

/-- If events cannot be selected, nothing changes. Else, if all numbers to sort by are there, an id is given out twice,
and the unfinished machine keeps what it has taken over by then: in the order of events, states, classes and actions, as
far as it came. Whatever it has not taken over still belongs where it did and finds the same classes and actions, and
the same attributes if none of the classes that it inherits from was taken over. -/
theorem extract_failed (ws ws' : Workspace) (m : MachineRef) (specifiers : List String) (fault : Fault)
    (hreach : ws.Reachable) (hm : m.index < ws.machines.length) (hplaced : ws.Placed)
    (hextract : ws.extract m specifiers = (ws', .error fault)) :
    (ws.matchingEvents m specifiers = .error fault ∧ ws' = ws) ∨
    ∃ events, ws.matchingEvents m specifiers = .ok events ∧ (ws.ArcsBelong m → ws.SortsNumbers m events) ∧
      (ws.SortsNumbers m events → ∃ touched states handed,
        ws.touchedStates (ws.collectArcs m events).1 = .ok touched ∧ states.Perm touched ∧
        (∃ id existing new, fault = .duplicateIdentifier id existing new (ws.machine m).head.id) ∧
        (ws'.registered ws.nextMachine).filter (fun r => r.index < ws.entities.length) = handed ∧
        handed <+: ws.shared m events states ∧
        (ws.ArcsBelong m → ws.Named m → (ws.machine m).head.id = (ws.machine m).registry.reserved →
          events ++ states <+: handed) ∧
        (∀ r ∈ ws.registered m, (ws'.entity r).machine =
          if r ∈ handed then some ws.nextMachine else (ws.entity r).machine) ∧
        (∀ r ∈ ws.registered m, r ∉ handed → FindsAs ws r ws' r) ∧
        ∀ r ∈ ws.registered m, (∀ c, ws.Inherits r c → c ∉ handed) → Answers ws r ws' r) := by
  have hc := hreach.consistent
  have hknown := known_of_mem_registered (hc.machine m hm)
  cases hselected : ws.matchingEvents m specifiers with
  | error cause =>
    left
    rw [extract, hselected] at hextract
    obtain ⟨rfl, hfault⟩ := Prod.mk.inj hextract
    exact ⟨congrArg Except.error (Except.error.inj hfault), rfl⟩
  | ok events =>
    right
    obtain ⟨touched, ready, htouched, hready, p, hending⟩ := ending_extract ws m specifiers events hc hm hselected
    have hrenumbered := renumbered_surveyed ws m specifiers events touched
    have hsurveyed := ready_surveyed ws m specifiers events touched
    rw [← hready] at hrenumbered hsurveyed
    have hbare := hrenumbered.bare_eq
    have hshared := filter_old_batch p
    rw [hextract] at hending
    obtain ⟨before, hhanded, hbefore, hregistered, hfault, hcause⟩ := handed_of_failed p hrenumbered hending
    rw [shared_of_bare_eq hbare, length_entities_of_bare_eq hbare] at hshared
    rw [length_entities_of_bare_eq hbare] at hhanded hregistered
    rw [nextMachine, length_machines_of_bare_eq hbare, ← nextMachine] at hregistered
    rw [head_of_bare_eq hbare] at hfault hcause
    refine ⟨events, rfl, fun hb => sortsNumbers_of_arcsBelong (hc.machine m hm) hb events, fun _ => ?_⟩
    refine ⟨touched, ready.byNumber touched, _, htouched, sorted_perm _ touched, hfault, hregistered,
      hshared ▸ hbefore.filter _, ?_, fun r hr => hhanded.owner r (hknown r hr), ?_, ?_⟩
    · intro hb hn hown
      have hprefix : events ++ ready.byNumber touched <+: before := by
        rcases hcause with hid | ⟨r, after, hbatch, hstuck⟩
        · exact absurd hid (head_ne_all (hc.machine m hm) hown)
        · exact prefix_of_ready hc hm hselected htouched hsurveyed hb hn hown hbatch hstuck
      have hold : (events ++ ready.byNumber touched).filter (fun r => r.index < ws.entities.length) =
          events ++ ready.byNumber touched := by
        refine List.filter_eq_self.mpr fun r hr => decide_eq_true ?_
        rw [← length_entities_of_bare_eq hbare]
        exact p.old r (Or.inl hr)
      rw [← hold]
      exact hprefix.filter _
    · exact fun r hr hnot => hhanded.findsAs hc hplaced r (hknown r hr) hnot
    · exact fun r hr hnone => hhanded.answers hc hplaced r (hknown r hr) hnone

/-- A machine with a class that has the id of the arc to be derived for its state, before the class that the state
inherits from. -/
def halfway : Workspace := filled "m"
  [{ id := "w_s", detail := .bundle }, { id := "k", attrs := [(.text "lang", .text "c")], detail := .bundle },
   { id := "s", classIds := ["k"], detail := .state [] [] none }, { id := "go", detail := .event none },
   { id := "w", detail := .arc { fromId := some "#ALL", toId := some "#ALL", eventId := some "go" } }]

theorem extract_failed_halfway :
    let ws' := (halfway.extract ⟨0⟩ []).1
    halfway.Placed ∧ ∃ fault states handed, halfway.extract ⟨0⟩ [] = (ws', .error fault) ∧
      (ws'.registered ⟨1⟩).filter (fun r => r.index < halfway.entities.length) = handed ∧
      halfway.members ⟨0⟩ .event ++ states <+: handed ∧
      ∀ r ∈ halfway.registered ⟨0⟩, r ∉ handed → FindsAs halfway r ws' r := by
  have hplaced : halfway.Placed := by decide +kernel
  have hnone : (halfway.extract ⟨0⟩ []).2.toOption = none := by decide +kernel
  cases hresult : (halfway.extract ⟨0⟩ []).2 with
  | ok clone =>
    rw [hresult] at hnone
    cases hnone
  | error fault =>
    have hextract : halfway.extract ⟨0⟩ [] = ((halfway.extract ⟨0⟩ []).1, .error fault) := Prod.ext rfl hresult
    rcases extract_failed halfway _ ⟨0⟩ [] fault (reachable_filled _ _) (by decide +kernel) hplaced hextract with
      ⟨hselected, _⟩ | ⟨events, hselected, hsorts, hfailed⟩
    · cases hselected
    · obtain rfl : halfway.members ⟨0⟩ .event = events := Except.ok.inj hselected
      obtain ⟨_, states, handed, _, _, _, htaken, _, hall, _, hkept, _⟩ := hfailed (hsorts (by decide +kernel))
      exact ⟨hplaced, fault, states, handed, hextract, htaken, hall (by decide +kernel) (by decide +kernel) rfl,
        hkept⟩

/-- After a failure a state that was taken over does not find its class any more. -/
theorem extract_failed_not_kept :
    let ws' := (halfway.extract ⟨0⟩ []).1
    halfway.Reachable ∧ (halfway.check ⟨0⟩).1.isValid = true ∧ halfway.ArcsBelong ⟨0⟩ ∧ halfway.Named ⟨0⟩ ∧
      (∀ r ∈ halfway.registered ⟨0⟩, (halfway.entity r).machine = some ⟨0⟩) ∧
      (halfway.extract ⟨0⟩ []).2.toOption = none ∧
      (halfway.entity ⟨3⟩).machine = some ⟨0⟩ ∧ (ws'.entity ⟨3⟩).machine = some ⟨1⟩ ∧
      (halfway.attr? ⟨3⟩ "lang").toOption.map Option.isSome = some true ∧
      (ws'.attr? ⟨3⟩ "lang").toOption.map Option.isSome = some false := by
  refine ⟨reachable_filled _ _, ?_⟩
  decide +kernel

end StateMachine.Workspace