import StateMachine.Proofs.Deciding
import StateMachine.Proofs.Handing
import StateMachine.Proofs.Preserving

/-!
# Asking before extracting

Enumerating, checking, resolving, selecting and extracting leave a machine as it was but for warnings, and its entities
but for numbers and owners. An extraction makes the numbers anew before it reads them, and reads none of the rest, so
that it ends the same way whatever was asked before.
-/

namespace StateMachine.Workspace

/-! ## What stays -/

/-- Machines may have got warnings, and entities other numbers and owners. Arcs are as they were. -/
structure Kept (ws ws' : Workspace) : Prop where
  machine : ∀ n, n.index < ws.machines.length → (ws'.machine n).unwarned = (ws.machine n).unwarned
  content : ∀ r, r.index < ws.entities.length →
    (ws'.entity r).unnumbered.detached = (ws.entity r).unnumbered.detached
  arcs : ∀ r, r.index < ws.entities.length → ws.kindOf r = .arc → ws'.entity r = ws.entity r
  machines : ws.machines.length ≤ ws'.machines.length
  entities : ws.entities.length ≤ ws'.entities.length

namespace Kept

variable {ws ws' : Workspace} {m : MachineRef}

theorem refl : Kept ws ws :=
  ⟨fun _ _ => rfl, fun _ _ => rfl, fun _ _ _ => rfl, Nat.le_refl _, Nat.le_refl _⟩

theorem of_bare_eq (h : ws'.bare = ws.bare) : Kept ws ws' := by
  refine ⟨fun n _ => unwarned_of_bare_eq h n, fun r _ => congrArg Entity.detached (unnumbered_of_bare_eq h r), ?_,
    Nat.le_of_eq (length_machines_of_bare_eq h).symm, Nat.le_of_eq (length_entities_of_bare_eq h).symm⟩
  intro r _ hr
  have hr' : ws'.kindOf r = .arc := by rw [kindOf_of_bare_eq h, hr]
  rw [← Entity.unnumbered_of_arc _ hr, ← unnumbered_of_bare_eq h, Entity.unnumbered_of_arc _ hr']

theorem of_handed {handed : List EntityRef} (h : Handed ws ws' m handed)
    (hmachines : ws.machines.length ≤ ws'.machines.length) : Kept ws ws' :=
  ⟨h.machine, h.content, h.arc_eq, hmachines, h.grown⟩

section
variable (h : Kept ws ws')
include h

/-- What an entity is besides its number and its machine stays. -/
theorem same {β : Type} (g : Entity → β) (hg : ∀ e, g e.unnumbered.detached = g e) (r : EntityRef)
    (hr : r.index < ws.entities.length) : g (ws'.entity r) = g (ws.entity r) := by
  rw [← hg, h.content r hr, hg]

theorem trans {ws'' : Workspace} (h' : Kept ws' ws'') : Kept ws ws'' := by
  refine ⟨?_, ?_, ?_, Nat.le_trans h.machines h'.machines, Nat.le_trans h.entities h'.entities⟩
  · intro n hn
    rw [h'.machine n (Nat.lt_of_lt_of_le hn h.machines), h.machine n hn]
  · intro r hr
    rw [h'.content r (Nat.lt_of_lt_of_le hr h.entities), h.content r hr]
  · intro r hr hkind
    have hkind' : ws'.kindOf r = .arc := (h.same Entity.kind Entity.kind_unnumbered r hr).trans hkind
    rw [h'.arcs r (Nat.lt_of_lt_of_le hr h.entities) hkind', h.arcs r hr hkind]

theorem agrees (hm : m.index < ws.machines.length) (hx : (ws.machine m).Consistent ws.kindOf ws.entities.length) :
    Agrees ws ws' m := by
  refine ⟨h.machine m hm, ?_, ?_, ?_⟩
  · exact fun entry he => h.same Entity.kind Entity.kind_unnumbered entry.2 (hx.known entry he)
  · exact fun entry he => h.same Entity.id Entity.id_unnumbered entry.2 (hx.known entry he)
  · intro r hr
    obtain ⟨hlt, hkind⟩ := known_of_mem_members hx .arc r hr
    exact h.arcs r hlt hkind

end

end Kept

theorem kept_extract (ws : Workspace) (m : MachineRef) (specifiers : List String) (hc : ws.Consistent)
    (hm : m.index < ws.machines.length) : Kept ws (ws.extract m specifiers).1 := by
  obtain ⟨handed, h⟩ := exists_handed_extract specifiers hc hm
  exact .of_handed h ((preserved_length ws.machines.length).extract (Nat.le_refl _) m specifiers)

/-! ## Asking -/

/-- What one may ask a machine for. -/
inductive Inquiry where
  | states
  | rawStates
  | check
  | resolve (eventId : String) (raw : Bool)
  | select (specifiers : List String)
  | extract (specifiers : List String)

/-- The workspace after an inquiry, be it one that failed. -/
def ask (ws : Workspace) (m : MachineRef) : Inquiry → Workspace
  | .states => (ws.states m).2
  | .rawStates => (ws.rawStates m).2
  | .check => (ws.check m).2
  | .resolve eventId raw => (ws.arcsForEvent m eventId raw).2
  | .select _ => ws
  | .extract specifiers => (ws.extract m specifiers).1

/-- A workspace after inquiries to machines that were there by then, those made by extractions included. -/
inductive Asked (ws : Workspace) : Workspace → Prop
  | start : Asked ws ws
  | ask {later : Workspace} (n : MachineRef) (inquiry : Inquiry) (hn : n.index < later.machines.length)
      (h : Asked ws later) : Asked ws (later.ask n inquiry)

theorem kept_ask (ws : Workspace) (m : MachineRef) (inquiry : Inquiry) (hc : ws.Consistent)
    (hm : m.index < ws.machines.length) : Kept ws (ws.ask m inquiry) ∧ (ws.ask m inquiry).Consistent := by
  have hbare : ∀ {ws' : Workspace}, ws'.bare = ws.bare → Kept ws ws' ∧ ws'.Consistent :=
    fun h => ⟨.of_bare_eq h, consistent_of_bare_eq h hc⟩
  cases inquiry with
  | states => exact hbare (bare_renumber ws m)
  | rawStates => exact hbare (bare_renumber ws m)
  | check => exact hbare (bare_check ws m)
  | resolve eventId raw => exact hbare (bare_arcsForEvent ws m eventId raw)
  | select => exact hbare rfl
  | extract specifiers => exact ⟨kept_extract ws m specifiers hc hm, consistent_extract ws m specifiers hc⟩

theorem kept_of_asked {ws later : Workspace} (hc : ws.Consistent) (h : Asked ws later) :
    Kept ws later ∧ later.Consistent := by
  induction h with
  | start => exact ⟨.refl, hc⟩
  | ask n inquiry hn h ih =>
    obtain ⟨hkept, hlater⟩ := ih
    obtain ⟨hone, hafter⟩ := kept_ask _ n inquiry hlater hn
    exact ⟨hkept.trans hone, hafter⟩

/-! ## What is selected and collected -/

theorem keepNew_cons (ws : Workspace) (kept : List FiringArc) (a : FiringArc) (rest : List FiringArc) :
    ws.keepNew kept (a :: rest) =
      ws.keepNew (if kept.any fun b => ws.nameOf b == ws.nameOf a then kept else kept ++ [a]) rest := rfl

theorem keepNew_congr {ws ws' : Workspace} (kept found : List FiringArc)
    (h : ∀ a ∈ kept ++ found, ws'.nameOf a = ws.nameOf a) : ws'.keepNew kept found = ws.keepNew kept found := by
  induction found generalizing kept with
  | nil => rfl
  | cons a rest ih =>
    have hany : (kept.any fun b => ws'.nameOf b == ws'.nameOf a) = kept.any fun b => ws.nameOf b == ws.nameOf a := by
      rw [Bool.eq_iff_iff, List.any_eq_true, List.any_eq_true]
      refine exists_congr fun b => and_congr_right fun hb => ?_
      rw [h a (by simp), h b (List.mem_append_left _ hb)]
    rw [keepNew_cons, keepNew_cons, hany]
    refine ih _ fun b hb => h b ?_
    split at hb
    · exact List.mem_append.mpr ((List.mem_append.mp hb).imp_right (List.mem_cons_of_mem a))
    · rwa [List.append_assoc] at hb

theorem filterAuxM_congr {α : Type} {p q : α → Except Fault Bool} (xs acc : List α) (h : ∀ x ∈ xs, p x = q x) :
    List.filterAuxM p xs acc = List.filterAuxM q xs acc := by
  induction xs generalizing acc with
  | nil => rfl
  | cons x xs ih =>
    obtain ⟨hx, hxs⟩ := List.forall_mem_cons.mp h
    rw [List.filterAuxM, List.filterAuxM, hx]
    exact bind_congr fun keep => ih _ hxs

section
variable {ws ws' : Workspace} {m : MachineRef} (h : Kept ws ws') (hm : m.index < ws.machines.length)
  (hx : (ws.machine m).Consistent ws.kindOf ws.entities.length)
include h hm hx

/-- The same events are selected, or one fault is met. -/
theorem Kept.matchingEvents_eq (specifiers : List String) :
    ws'.matchingEvents m specifiers = ws.matchingEvents m specifiers := by
  rw [matchingEvents, matchingEvents, (h.agrees hm hx).members_eq]
  split
  · rfl
  · have htest : ∀ r ∈ ws.members m .event,
        eventMatches (ws'.entity r).id (ws'.entity r).eventType (.split specifiers) =
          eventMatches (ws.entity r).id (ws.entity r).eventType (.split specifiers) := fun r hr => by
      have hlt := (known_of_mem_members hx .event r hr).1
      rw [h.same Entity.id Entity.id_unnumbered r hlt, h.same Entity.eventType Entity.eventType_unnumbered r hlt]
    rw [List.filterM, filterAuxM_congr _ _ htest, List.filterM]

end

/-! ## What an extraction reads -/

namespace Agrees

section
variable {ws ws' : Workspace} {m : MachineRef} (h : Agrees ws ws' m)
  (hx : (ws.machine m).Consistent ws.kindOf ws.entities.length)
include h hx

omit hx in
theorem head_eq : (ws'.machine m).head = (ws.machine m).head := by
  have heq := congrArg Machine.head h.machine
  exact heq

theorem card_eq (kind : Kind) (r : EntityRef) (hr : r ∈ ws.members m kind) : ws'.card r = ws.card r := by
  obtain ⟨id, hmem, _⟩ := (mem_members_iff hx kind r).mp hr
  rw [card, h.id_eq hx kind r hr, h.kinds _ (Machine.mem_entries_of_added _ hmem), card]

theorem cardsFor_eq (events states : List EntityRef) (hevents : ∀ r ∈ events, r ∈ ws.members m .event)
    (hstates : ∀ r ∈ states, r ∈ ws.members m .state) :
    ws'.cardsFor m events states (ws.collectArcs m events).1 =
      ws.cardsFor m events states (ws.collectArcs m events).1 := by
  have hmembers : ∀ kind, (ws.members m kind).map ws'.card = (ws.members m kind).map ws.card :=
    fun kind => List.map_congr_left (h.card_eq hx kind)
  have hcollected : ∀ a ∈ (ws.collectArcs m events).1, ((ws'.firing a).id, Kind.arc) = ((ws.firing a).id, .arc) :=
    fun a ha => by rw [firing_of_mem_collectArcs h events a ha]
  rw [cardsFor, List.map_congr_left fun r hr => h.card_eq hx .event r (hevents r hr),
    List.map_congr_left fun r hr => h.card_eq hx .state r (hstates r hr), List.map_congr_left hcollected, h.members_eq,
    h.members_eq, List.map_append, hmembers, hmembers, cardsFor, List.map_append]

variable (hx' : (ws'.machine m).Consistent ws'.kindOf ws'.entities.length) (hn : ws.Named m) (hb : ws.ArcsBelong m)
include hx' hn hb

theorem collectArcs_eq (events : List EntityRef) (hevents : ∀ r ∈ events, r ∈ ws.members m .event) :
    (ws'.collectArcs m events).1 = (ws.collectArcs m events).1 := by
  have hfired : ws'.fired m events = ws.fired m events := by
    refine List.flatMap_congr fun event he => ?_
    rw [h.id_eq hx .event event (hevents event he), h.arcsForEvent_eq hx hb hx' hn]
  -- The same arcs fire, and which of them are kept is settled by their ids.
  rw [collectArcs_eq_gather, collectArcs_eq_gather, gather_eq, gather_eq, hfired]
  refine keepNew_congr [] _ fun a ha => ?_
  obtain ⟨event, _, hfires⟩ := (mem_fired ws m events a).mp ha
  rw [nameOf, h.firing_of_mem_arcsForEvent _ false a hfires, nameOf]

theorem mem_touched_of_mem {events touched touched' : List EntityRef}
    (hevents : ∀ r ∈ events, r ∈ ws.members m .event)
    (htouched : ws.touchedStates (ws.collectArcs m events).1 = .ok touched)
    (htouched' : ws'.touchedStates (ws'.collectArcs m events).1 = .ok touched') (s : EntityRef) (hs : s ∈ touched') :
    s ∈ touched := by
  obtain ⟨hconcrete, a, ha, f, t, hfound, hst⟩ := ((touched_collected htouched').2 s).mp hs
  have hstate := mem_states_of_touched hx' (h.named hn) (h.arcsBelong hb) ha hfound hst hconcrete
  rw [h.members_eq] at hstate
  rw [h.collectArcs_eq hx hx' hn hb events hevents] at ha
  rw [firing_of_mem_collectArcs h events a ha, h.endpoints?_eq _ (machine_of_mem_collectArcs hb events a ha)] at hfound
  exact mem_touched_of_state hx hn ha hfound hst htouched hstate

theorem filter_touched_eq {events touched touched' : List EntityRef}
    (hevents : ∀ r ∈ events, r ∈ ws.members m .event)
    (htouched : ws.touchedStates (ws.collectArcs m events).1 = .ok touched)
    (htouched' : ws'.touchedStates (ws'.collectArcs m events).1 = .ok touched') :
    (ws'.members m .state).filter (· ∈ touched') = (ws.members m .state).filter (· ∈ touched) := by
  have hevents' : ∀ r ∈ events, r ∈ ws'.members m .event := by
    rw [h.members_eq]
    exact hevents
  rw [h.members_eq]
  refine List.filter_congr fun s _ => decide_eq_decide.mpr ⟨?_, ?_⟩
  · exact h.mem_touched_of_mem hx hx' hn hb hevents htouched htouched' s
  · exact h.symm.mem_touched_of_mem hx' hx (h.named hn) (h.arcsBelong hb) hevents' htouched' htouched s

end

end Agrees

/-! ## How an extraction ends -/

/-- What an extraction makes, as far as machines of different workspaces can be compared: arcs are compared by what they
say and by whether they belong to the machine, all else by reference. -/
structure Product where
  head : Head
  events : List EntityRef
  states : List EntityRef
  bundles : List EntityRef
  actions : List EntityRef
  arcs : List Entity
  owned : Bool

def product (ws : Workspace) (m : MachineRef) : Product where
  head := (ws.machine m).head
  events := ws.members m .event
  states := ws.members m .state
  bundles := ws.members m .bundle
  actions := ws.members m .action
  arcs := (ws.members m .arc).map fun r => (ws.entity r).detached
  owned := decide (ws.ArcsBelong m)

/-- How an extraction ends: with a machine or with a fault. -/
def outcome (ws : Workspace) (m : MachineRef) (specifiers : List String) : Except Fault Product :=
  let made := ws.extract m specifiers
  made.2.map made.1.product

theorem snd_finish (ws : Workspace) (m : MachineRef) (events touched : List EntityRef) (arcs : List FiringArc) :
    (ws.finish m events touched arcs).2 = (ws.assemble m events (ws.byNumber touched) arcs).2 := by
  rcases finish_cases ws m events touched arcs with ⟨fault, hmade, heq⟩ | ⟨clone, journal, hmade, heq⟩
  · rw [heq, hmade]
  · rw [heq, hmade]

/-- In a machine whose arcs and names are in order, an extraction assembles the touched states in their order. -/
theorem snd_extract {ws : Workspace} {m : MachineRef} {specifiers : List String} {events touched : List EntityRef}
    (hc : ws.Consistent) (hm : m.index < ws.machines.length) (hn : ws.Named m) (hb : ws.ArcsBelong m)
    (hselected : ws.matchingEvents m specifiers = .ok events)
    (htouched : ws.touchedStates (ws.collectArcs m events).1 = .ok touched) :
    let states := (ws.members m .state).filter (· ∈ touched)
    ∃ ready, Agrees ws ready m ∧ Parts ready m events states (ws.collectArcs m events).1 ∧
      (ws.extract m specifiers).2 = (ready.assemble m events states (ws.collectArcs m events).1).2 := by
  have hready := ready_surveyed ws m specifiers events touched
  have hsorted := byNumber_touched hc hm hn hb htouched hready
  have p := parts_of_ready hc hm hselected htouched hready
  rw [hsorted] at p
  refine ⟨_, .of_bare_eq hready.bare_eq (hc.machine m hm), p, ?_⟩
  rw [extract_of_touched ws m specifiers events touched hselected htouched, snd_finish, hsorted]

section
variable {ws ws' : Workspace} {m : MachineRef} (h : Kept ws ws') (hc : ws.Consistent) (hc' : ws'.Consistent)
  (hm : m.index < ws.machines.length) (hn : ws.Named m) (hb : ws.ArcsBelong m) (specifiers : List String)
include h hc hc' hm hn hb

theorem Kept.snd_extract_eq :
    (ws'.extract m specifiers).2.map (fun _ => ()) = (ws.extract m specifiers).2.map fun _ => () := by
  have hx := hc.machine m hm
  have hm' := Nat.lt_of_lt_of_le hm h.machines
  have hx' := hc'.machine m hm'
  have hagrees := h.agrees hm hx
  have hsame := h.matchingEvents_eq hm hx specifiers
  cases hselected : ws.matchingEvents m specifiers with
  | error fault =>
    rw [hselected] at hsame
    rw [extract, extract, hselected, hsame]
  | ok events =>
    rw [hselected] at hsame
    have hevents : ∀ r ∈ events, r ∈ ws.members m .event := fun r hr =>
      (matchingEvents_sublist ws m specifiers events hselected).subset hr
    obtain ⟨touched, htouched, _⟩ := touchedStates_collected ws m events
    obtain ⟨touched', htouched', _⟩ := touchedStates_collected ws' m events
    have hstates := hagrees.filter_touched_eq hx hx' hn hb hevents htouched htouched'
    obtain ⟨ready, hready, p, hend⟩ := snd_extract hc hm hn hb hselected htouched
    obtain ⟨ready', hready', p', hend'⟩ :=
      snd_extract hc' hm' (hagrees.named hn) (hagrees.arcsBelong hb) hsame htouched'
    rw [hagrees.collectArcs_eq hx hx' hn hb events hevents, hstates] at p' hend'
    have hold : ∀ s ∈ (ws.members m .state).filter (· ∈ touched), s ∈ ws.members m .state := fun s hs =>
      (List.mem_filter.mp hs).1
    have hready' := hagrees.trans hready'
    -- Both runs end with assembling the same parts, and it is their cards that decide.
    rw [hend, hend']
    refine snd_assemble_congr p p' ?_ ?_
    · rw [hready'.head_eq, hready.head_eq]
    · rw [hready.cardsFor_eq hx events _ hevents hold, hready'.cardsFor_eq hx events _ hevents hold]

/-- If an extraction makes a machine, it makes it of the same things as before. -/
theorem Kept.product_eq {clone clone' : MachineRef} (hok : (ws.extract m specifiers).2 = .ok clone)
    (hok' : (ws'.extract m specifiers).2 = .ok clone') :
    (ws'.extract m specifiers).1.product clone' = (ws.extract m specifiers).1.product clone := by
  have hx := hc.machine m hm
  have hm' := Nat.lt_of_lt_of_le hm h.machines
  have hx' := hc'.machine m hm'
  have hagrees := h.agrees hm hx
  obtain ⟨events, hselected⟩ := selected_of_extract (Prod.ext rfl hok)
  have hevents : ∀ r ∈ events, r ∈ ws.members m .event := fun r hr =>
    (matchingEvents_sublist ws m specifiers events hselected).subset hr
  obtain ⟨touched, htouched, hmade⟩ := extracted_of_extract hc hm hselected (Prod.ext rfl hok) rfl
  obtain ⟨touched', htouched', hmade'⟩ := extracted_of_extract hc' hm'
    ((h.matchingEvents_eq hm hx specifiers).trans hselected) (Prod.ext rfl hok') rfl
  have hcollected := hagrees.collectArcs_eq hx hx' hn hb events hevents
  have hstates := hagrees.filter_touched_eq hx hx' hn hb hevents htouched htouched'
  have harcs := congrArg (List.map Entity.detached) hmade.arcs
  have harcs' := congrArg (List.map Entity.detached) hmade'.arcs
  rw [List.map_map, List.map_map] at harcs harcs'
  have hcopies : (ws'.collectArcs m events).1.map (Entity.detached ∘ ws'.taken clone') =
      (ws.collectArcs m events).1.map (Entity.detached ∘ ws.taken clone) := by
    rw [hcollected]
    refine List.map_congr_left fun a ha => ?_
    rw [Function.comp_apply, taken, copyOf, firing_of_mem_collectArcs hagrees events a ha]
    rfl
  rw [product, product, hmade.head, hmade'.head, hagrees.head_eq, hmade.events, hmade'.events, hmade.ordered hn hb,
    hmade'.ordered (hagrees.named hn) (hagrees.arcsBelong hb), hstates, hmade.bundles, hmade'.bundles, hmade.actions,
    hmade'.actions, hagrees.members_eq, hagrees.members_eq, decide_eq_true hmade.belong, decide_eq_true hmade'.belong]
  congr 1
  exact harcs'.trans (hcopies.trans harcs.symm)

end

/-- Whatever a machine and those extracted from it are asked for, an extraction ends the same way afterwards: with the
same fault, or with a machine that has the same head, shares the same entities in the same order, and whose arcs say the
same. -/
theorem outcome_of_asked (ws later : Workspace) (m : MachineRef) (specifiers : List String) (hreach : ws.Reachable)
    (hm : m.index < ws.machines.length) (hb : ws.ArcsBelong m) (hn : ws.Named m) (hasked : Asked ws later) :
    later.outcome m specifiers = ws.outcome m specifiers := by
  have hc := hreach.consistent
  obtain ⟨h, hc'⟩ := kept_of_asked hc hasked
  have hverdict := h.snd_extract_eq hc hc' hm hn hb specifiers
  rw [outcome, outcome]
  cases hresult : (ws.extract m specifiers).2 with
  | error fault =>
    cases hresult' : (later.extract m specifiers).2 with
    | error fault' =>
      rw [hresult, hresult'] at hverdict
      exact congrArg Except.error (Except.error.inj hverdict)
    | ok clone' =>
      rw [hresult, hresult'] at hverdict
      cases hverdict
  | ok clone =>
    cases hresult' : (later.extract m specifiers).2 with
    | error fault' =>
      rw [hresult, hresult'] at hverdict
      cases hverdict
    | ok clone' => exact congrArg Except.ok (h.product_eq hc hc' hm hn hb specifiers hresult hresult')

/-- A machine that can be extracted for one target, but not as a whole: an action has the id of an arc to be
derived. -/
def ferry : Workspace := filled "m"
  [{ id := "s", detail := .state [] [] none }, { id := "t", detail := .state [] [] none },
   { id := "go", detail := .event (some "ui") }, { id := "off", detail := .event (some "io") },
   { id := "w_t", detail := .action none },
   { id := "a", detail := .arc { fromId := some "t", toId := some "s", eventId := some "go" } },
   { id := "w", detail := .arc { fromId := some "#ALL", toId := some "#ALL", eventId := some "off" } }]

theorem outcome_of_asked_ferry :
    let later := (((ferry.ask ⟨0⟩ (.extract ["ui"])).ask ⟨1⟩ .rawStates).ask ⟨0⟩ (.extract [])).ask ⟨1⟩ (.extract [])
    ferry.ArcsBelong ⟨0⟩ ∧ ferry.Named ⟨0⟩ ∧ Asked ferry later ∧
      later.outcome ⟨0⟩ ["ui"] = ferry.outcome ⟨0⟩ ["ui"] ∧ later.outcome ⟨0⟩ [] = ferry.outcome ⟨0⟩ [] ∧
      (ferry.outcome ⟨0⟩ ["ui"]).toOption.isSome = true ∧ (ferry.outcome ⟨0⟩ []).toOption.isSome = false := by
  intro later
  have hb : ferry.ArcsBelong ⟨0⟩ := by decide +kernel
  have hn : ferry.Named ⟨0⟩ := by decide +kernel
  have hasked : Asked ferry later := .ask ⟨1⟩ (.extract []) (by decide +kernel) (.ask ⟨0⟩ (.extract [])
    (by decide +kernel) (.ask ⟨1⟩ .rawStates (by decide +kernel) (.ask ⟨0⟩ (.extract ["ui"]) (by decide +kernel)
    .start)))
  exact ⟨hb, hn, hasked,
    outcome_of_asked ferry _ ⟨0⟩ ["ui"] (reachable_filled _ _) (by decide +kernel) hb hn hasked,
    outcome_of_asked ferry _ ⟨0⟩ [] (reachable_filled _ _) (by decide +kernel) hb hn hasked,
    by decide +kernel, by decide +kernel⟩

end StateMachine.Workspace
