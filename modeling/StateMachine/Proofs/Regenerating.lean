import StateMachine.Proofs.Lookups
import StateMachine.Proofs.Rendering

/-!
# Switch tables of extracted machines

The function of a selected event is the same in the switch tables of a machine and of the one extracted from it: the
copies of its arcs fire in the same order between the same states, and find the same actions.
-/

namespace StateMachine.SwitchTable

open Workspace

/-! ## Actions that are there -/

/-- Every id under which an entity of the machine looks for an action names an action of the machine. -/
def ActionsKnown (ws : Workspace) (m : MachineRef) : Prop :=
  ∀ r ∈ ws.registered m, ∀ id ∈ (ws.entity r).links.actionIds, id ∈ ws.idsOf (ws.members m .action)

instance (ws : Workspace) (m : MachineRef) : Decidable (ActionsKnown ws m) :=
  inferInstanceAs (Decidable (∀ r ∈ ws.registered m, ∀ id ∈ (ws.entity r).links.actionIds,
    id ∈ ws.idsOf (ws.members m .action)))

/-- All that a machine registers belongs to it under the ids of its registry, and its actions are there. -/
structure SelfReliant (ws : Workspace) (m : MachineRef) : Prop where
  consistent : (ws.machine m).Consistent ws.kindOf ws.entities.length
  named : ws.Named m
  belong : ∀ r ∈ ws.registered m, (ws.entity r).machine = some m
  known : ActionsKnown ws m

namespace SelfReliant

variable {ws : Workspace} {m : MachineRef} (p : SelfReliant ws m)
include p

theorem mem_registered {r : EntityRef} (h : r = (ws.machine m).allState ∨ ∃ kind, r ∈ ws.members m kind) :
    r ∈ ws.registered m :=
  List.mem_map.mpr ⟨_, (mem_entries_iff p.consistent p.named _ r).mpr ⟨h, rfl⟩, rfl⟩

theorem arcsBelong : ws.ArcsBelong m := fun r hr => p.belong r (p.mem_registered (Or.inr ⟨.arc, hr⟩))

theorem mem_registered_of_state {r : EntityRef} (h : r = (ws.machine m).allState ∨ r ∈ ws.members m .state) :
    r ∈ ws.registered m := p.mem_registered (h.imp_right fun hr => ⟨.state, hr⟩)

/-- Ids of actions of the machine are all found. -/
theorem findAll_actions {e : Entity} (he : e.machine = some m) (ids : List String)
    (hids : ∀ id ∈ ids, id ∈ ws.idsOf (ws.members m .action)) :
    ∃ found, ws.findAll e .action ids = .ok found ∧ ∀ a ∈ found, a ∈ ws.members m .action := by
  induction ids with
  | nil => exact ⟨[], rfl, by simp⟩
  | cons id rest ih =>
    obtain ⟨hid, hrest⟩ := List.forall_mem_cons.mp hids
    obtain ⟨r, hr, rfl⟩ := List.mem_map.mp hid
    obtain ⟨others, hothers, hmembers⟩ := ih hrest
    have hfound : ws.findFrom e .action (some (ws.entity r).id) = .ok (some r) := by
      rw [findFrom, he]
      exact (findMember_iff p.consistent p.named .action (by decide) _ r).mpr ⟨hr, rfl⟩
    refine ⟨r :: others, ?_, List.forall_mem_cons.mpr ⟨hr, hmembers⟩⟩
    rw [findAll, hfound, hothers]
    rfl

section
variable {eventId : String} {a : FiringArc} (ha : a ∈ (ws.arcsForEvent m eventId false).1)
include ha

theorem machine_firing : (ws.firing a).machine = some m := by
  obtain ⟨⟨k, hmem⟩, _⟩ := candidate_of_mem_arcsForEvent ws m eventId false a ha
  exact machine_of_mem_candidates p.arcsBelong eventId false _ k a hmem

/-- An arc that fires has the actions of a declared one. -/
theorem handlers_known : ∀ id ∈ (ws.firing a).transition.handlerIds, id ∈ ws.idsOf (ws.members m .action) := by
  obtain ⟨w, hw, hstems⟩ := stemsFrom_of_mem_arcsForEvent p.consistent p.named eventId a ha
  have hlinks : (ws.firing a).links = (ws.entity w).links :=
    links_taken ws m m w a (known_of_mem_members p.consistent .arc w hw).2 hstems
  intro id hid
  refine p.known w (p.mem_registered (Or.inr ⟨.arc, hw⟩)) id ?_
  rw [← hlinks, Links.actionIds, List.append_assoc]
  exact List.mem_append_left _ hid

theorem actions_firing {f t : EntityRef} (hf : f ∈ ws.registered m) (ht : t ∈ ws.registered m) :
    ∃ found, actions ws (ws.firing a) f t = .ok found ∧ ∀ x ∈ found, x ∈ ws.members m .action := by
  obtain ⟨own, hown, hownMembers⟩ := p.findAll_actions (p.machine_firing ha) _ (p.handlers_known ha)
  obtain ⟨leaving, hleaving, hleavingMembers⟩ := p.findAll_actions (p.belong f hf) (ws.entity f).exitIds
    fun id hid => p.known f hf id (List.mem_append_right _ hid)
  obtain ⟨entering, hentering, henteringMembers⟩ := p.findAll_actions (p.belong t ht) (ws.entity t).entryIds
    fun id hid => p.known t ht id (List.mem_append_left _ (List.mem_append_right _ hid))
  rw [actions, handlers, exitHandlersOf, actionsOf, entryHandlersOf, actionsOf, hown, hleaving, hentering]
  split
  · exact ⟨own, rfl, hownMembers⟩
  · refine ⟨leaving ++ own ++ entering, rfl, fun x hx => ?_⟩
    rcases List.mem_append.mp hx with hx | hx
    · exact (List.mem_append.mp hx).elim (hleavingMembers x) (hownMembers x)
    · exact henteringMembers x hx

theorem caseLines_firing : ∃ lines, caseLines ws (ws.firing a) = .ok lines := by
  obtain ⟨f, t, hends, hf, ht, _⟩ := endpoints_of_mem_arcsForEvent p.consistent p.named p.arcsBelong eventId a ha
  obtain ⟨found, hfound, _⟩ :=
    p.actions_firing ha (p.mem_registered_of_state (Or.inr hf)) (p.mem_registered_of_state ht)
  simp only [caseLines, hends, hfound]
  exact ⟨_, rfl⟩

end

/-- There is a function for each event. -/
theorem functionOf_ok (event : EntityRef) : ∃ lines, functionOf ws m event = .ok lines := by
  have hlines : ∀ a ∈ (ws.arcsForEvent m (ws.entity event).id false).1,
      caseLines ws (ws.firing a) = .ok ((caseLines ws (ws.firing a)).toOption.getD []) := fun a ha => by
    obtain ⟨lines, heq⟩ := p.caseLines_firing ha
    rw [heq]
    rfl
  rw [functionOf, cases, mapM_eq_ok hlines]
  exact ⟨_, rfl⟩

end SelfReliant

/-! ## Copies of arcs -/

theorem exitIds_unnumbered (e : Entity) : e.unnumbered.exitIds = e.exitIds := congrArg Links.exitIds e.links_unnumbered

theorem entryIds_unnumbered (e : Entity) : e.unnumbered.entryIds = e.entryIds :=
  congrArg Links.entryIds e.links_unnumbered

/-- The old machine before an extraction, and what is known afterwards of the new one and of what it shares. -/
structure Carried (ws later : Workspace) (m clone : MachineRef) (events touched : List EntityRef) : Prop where
  reliant : SelfReliant ws m
  concrete : ws.StatesConcrete m
  selected : events ⊆ ws.members m .event
  touched_eq : ws.touchedStates (ws.collectArcs m events).1 = .ok touched
  extracted : Extracted ws later m clone events touched
  owner : ∀ r ∈ ws.registered m, (later.entity r).machine = some m ∨ (later.entity r).machine = some clone
  told : ws.NamesTell m events
  targets : ∀ event ∈ events, ∀ a ∈ (ws.arcsForEvent m (ws.entity event).id false).1,
    (ws.firing a).transition.toId ≠ some allStateId

namespace Carried

variable {ws later : Workspace} {m clone : MachineRef} {events touched : List EntityRef}
  (c : Carried ws later m clone events touched)
include c

theorem findAll_actions {e e' : Entity} (he : e.machine = some m)
    (he' : e'.machine = some m ∨ e'.machine = some clone) (ids : List String)
    (hids : ∀ id ∈ ids, id ∈ ws.idsOf (ws.members m .action)) :
    later.findAll e' .action ids = ws.findAll e .action ids :=
  findAll_congr .action ids fun id hid => c.extracted.findFrom_settled c.reliant.consistent c.reliant.named
    c.reliant.arcsBelong c.selected he he' .action (Or.inr rfl) id (Or.inl (hids id hid))

theorem actionsOf_eq (r : EntityRef) (hr : r ∈ ws.registered m) (ids : Entity → List String)
    (hread : ∀ e, ids e.unnumbered.detached = ids e) (hids : ids (ws.entity r) ⊆ (ws.entity r).links.actionIds) :
    later.actionsOf r (ids (later.entity r)) = ws.actionsOf r (ids (ws.entity r)) := by
  rw [c.extracted.same_of_shared ids hread r (known_of_mem_registered c.reliant.consistent r hr)]
  exact c.findAll_actions (c.reliant.belong r hr) (c.owner r hr) _
    fun id hid => c.reliant.known r hr id (hids hid)

theorem exitHandlersOf_eq (r : EntityRef) (hr : r ∈ ws.registered m) :
    later.exitHandlersOf r = ws.exitHandlersOf r :=
  c.actionsOf_eq r hr Entity.exitIds (fun e => exitIds_unnumbered e) fun _ hid => List.mem_append_right _ hid

theorem entryHandlersOf_eq (r : EntityRef) (hr : r ∈ ws.registered m) :
    later.entryHandlersOf r = ws.entryHandlersOf r :=
  c.actionsOf_eq r hr Entity.entryIds (fun e => entryIds_unnumbered e)
    fun _ hid => List.mem_append_left _ (List.mem_append_right _ hid)

/-- The copy of an arc makes the case that the arc made. -/
theorem caseLines_taken (event : EntityRef) (he : event ∈ events) (a : FiringArc)
    (ha : a ∈ (ws.arcsForEvent m (ws.entity event).id false).1) :
    caseLines later (ws.taken clone a) = caseLines ws (ws.firing a) := by
  have p := c.reliant
  have hcollected : a ∈ (ws.collectArcs m events).1 := by
    rw [← filter_collectArcs c.told event he] at ha
    exact (List.mem_filter.mp ha).1
  obtain ⟨f, t, t', hends, _, htarget, hends'⟩ := c.extracted.endpoints_taken p.consistent p.named p.arcsBelong
    c.touched_eq a hcollected
  obtain ⟨f', u, hsame, hf, ht, _, hto⟩ := endpoints_of_mem_arcsForEvent p.consistent p.named p.arcsBelong _ a ha
  rw [hends] at hsame
  obtain ⟨rfl, rfl⟩ := Prod.mk.inj (Option.some.inj hsame)
  -- The target is no `#ALL`, so the new machine shares it.
  have hstate : t ∈ ws.members m .state := ht.resolve_left fun hall => by
    rw [hall, id_allState p.consistent p.named] at hto
    exact c.targets event he a ha hto
  obtain rfl := htarget hstate
  have hfr := p.mem_registered_of_state (Or.inr hf)
  have htr := p.mem_registered_of_state (Or.inr hstate)
  have hknown := fun r hr => known_of_mem_registered p.consistent r hr
  refine caseLines_congr hends hends' (actions_congr ?_ (c.exitHandlersOf_eq f hfr) (c.entryHandlersOf_eq t' htr))
    (c.extracted.same_of_shared Entity.enumId Entity.enumId_unnumbered f (hknown f hfr))
    (c.extracted.same_of_shared Entity.enumId Entity.enumId_unnumbered t' (hknown t' htr)) ?_
  · exact c.findAll_actions (p.machine_firing ha) (Or.inr rfl) _ (p.handlers_known ha)
  · intro found hfound x hx
    obtain ⟨found', hfound', hmembers⟩ := p.actions_firing ha hfr htr
    obtain rfl : found' = found := Except.ok.inj (hfound'.symm.trans hfound)
    exact c.extracted.same_of_shared Entity.code (fun e => code_unnumbered e) x
      (known_of_mem_members p.consistent .action x (hmembers x hx)).1

/-- The copies of the arcs of a selected event make the same cases, in the same order. -/
theorem functionOf_eq (event : EntityRef) (he : event ∈ events) :
    functionOf later clone event = functionOf ws m event := by
  have p := c.reliant
  have hid : (later.entity event).id = (ws.entity event).id := c.extracted.id_eq event
    (known_of_mem_members p.consistent .event event (c.selected he)).1
  have hfired := c.extracted.arcsForEvent_eq p.consistent p.named p.arcsBelong c.touched_eq c.concrete
    (ws.entity event).id false
  have hcopies := c.extracted.map_arcsOn (ws.entity event).id
  rw [filter_collectArcs c.told event he] at hcopies
  have hmapped : ((later.arcsOn clone (ws.entity event).id).map FiringArc.declared).mapM
      (fun a => caseLines later (later.firing a)) =
        ((later.arcsOn clone (ws.entity event).id).map later.entity).mapM (caseLines later) := by
    rw [List.mapM_map, List.mapM_map]
    rfl
  have hcases : cases later ((later.arcsOn clone (ws.entity event).id).map .declared) =
      cases ws (ws.arcsForEvent m (ws.entity event).id false).1 := by
    rw [cases, cases, hmapped, hcopies, List.mapM_map]
    exact congrArg _ (mapM_congr fun a ha => c.caseLines_taken event he a ha)
  rw [functionOf, hid, hfired, hcases, functionOf]

end Carried

/-- If all that a machine registers belongs to it, and all actions are there, each selected event has the same function
in the switch table of the machine and, after an extraction, in that of the new machine. -/
theorem render_extract (ws ws' later : Workspace) (m clone : MachineRef) (specifiers : List String)
    (events : List EntityRef) (hreach : ws.Reachable) (hm : m.index < ws.machines.length) (hn : ws.Named m)
    (hown : ∀ r ∈ ws.registered m, (ws.entity r).machine = some m) (hknown : ActionsKnown ws m)
    (hconcrete : ws.StatesConcrete m) (hselected : ws.matchingEvents m specifiers = .ok events)
    (htargets : ∀ event ∈ events, ∀ a ∈ (ws.arcsForEvent m (ws.entity event).id false).1,
      (ws.firing a).transition.toId ≠ some allStateId)
    (hsame : ws.NamesTell m events) (hextract : ws.extract m specifiers = (ws', .ok clone))
    (hlater : later.bare = ws'.bare) :
    ∃ emitted : EntityRef → List String,
      (∀ event ∈ ws.members m .event, functionOf ws m event = .ok (emitted event)) ∧
      (∀ event ∈ events, functionOf later clone event = .ok (emitted event)) ∧
      (render ws m).2 =
        .ok (joinLines (opening ws m ++ (ws.members m .event).flatMap emitted ++ closing ws m)) ∧
      (render later clone).2 =
        .ok (joinLines (opening later clone ++ events.flatMap emitted ++ closing later clone)) := by
  have hc := hreach.consistent
  have p : SelfReliant ws m := ⟨hc.machine m hm, hn, hown, hknown⟩
  have hevents := (matchingEvents_sublist ws m specifiers events hselected).subset
  obtain ⟨touched, htouched, h⟩ := extracted_of_extract hc hm hselected hextract hlater
  obtain ⟨rfl, hhanded, _⟩ := handed_of_extract specifiers hc hm hselected hextract
  have howner : ∀ r ∈ ws.registered m,
      (later.entity r).machine = some m ∨ (later.entity r).machine = some ws.nextMachine := fun r hr => by
    rw [← Entity.machine_unnumbered, unnumbered_of_bare_eq hlater, Entity.machine_unnumbered,
      hhanded.owner r (known_of_mem_registered p.consistent r hr), hown r hr]
    split
    · exact Or.inr rfl
    · exact Or.inl rfl
  have c : Carried ws later m ws.nextMachine events touched :=
    ⟨p, hconcrete, hevents, htouched, h, howner, hsame, htargets⟩
  have hold : ∀ event, functionOf ws m event = .ok ((functionOf ws m event).toOption.getD []) := fun event => by
    obtain ⟨lines, heq⟩ := p.functionOf_ok event
    rw [heq]
    rfl
  have hnew : ∀ event ∈ events,
      functionOf later ws.nextMachine event = .ok ((functionOf ws m event).toOption.getD []) :=
    fun event he => (c.functionOf_eq event he).trans (hold event)
  -- Of both machines, the functions that are there are those of the old one.
  refine ⟨fun event => (functionOf ws m event).toOption.getD [], fun event _ => hold event, hnew, ?_, ?_⟩
  · rw [render_eq, mapM_eq_ok fun event _ => hold event]
    rfl
  · rw [render_eq, h.events, mapM_eq_ok hnew]
    rfl

/-- A machine with two events for different targets. One arc leaves every state and keeps one of them, one is guarded,
and states run actions when they are entered or left. -/
def deck : Workspace := filled "m"
  [{ id := "beep", detail := .action (some "beep();") }, { id := "note", detail := .action (some "note();") },
   { id := "idle", detail := .state ["beep"] ["note"] none }, { id := "busy", detail := .state [] ["beep"] none },
   { id := "go", detail := .event (some "ui") }, { id := "io", detail := .event (some "io") },
   { id := "w",
     detail := .arc { fromId := some "#ALL", toId := some "idle", eventId := some "go", handlerIds := ["note"] } },
   { id := "a", detail := .arc { fromId := some "busy", toId := some "idle", eventId := some "io" } },
   { id := "b",
     detail := .arc { fromId := some "idle", toId := some "busy", eventId := some "go", guard := some "g" } }]

theorem render_extract_deck :
    let ws' := (deck.extract ⟨0⟩ ["ui"]).1
    deck.Named ⟨0⟩ ∧ (∀ r ∈ deck.registered ⟨0⟩, (deck.entity r).machine = some ⟨0⟩) ∧ ActionsKnown deck ⟨0⟩ ∧
      deck.StatesConcrete ⟨0⟩ ∧ deck.NamesTell ⟨0⟩ [⟨5⟩] ∧
      (∀ event ∈ [⟨5⟩], ∀ a ∈ (deck.arcsForEvent ⟨0⟩ (deck.entity event).id false).1,
        (deck.firing a).transition.toId ≠ some allStateId) ∧
      ∃ lines, functionOf deck ⟨0⟩ ⟨5⟩ = .ok lines ∧ functionOf ws' ⟨1⟩ ⟨5⟩ = .ok lines ∧
        (render ws' ⟨1⟩).2 = .ok (joinLines (opening ws' ⟨1⟩ ++ lines ++ closing ws' ⟨1⟩)) := by
  intro ws'
  have hextract : deck.extract ⟨0⟩ ["ui"] = (ws', .ok ⟨1⟩) :=
    extract_of_toOption deck ⟨0⟩ ⟨1⟩ ["ui"] (by decide +kernel)
  have hn : deck.Named ⟨0⟩ := by decide +kernel
  have hown : ∀ r ∈ deck.registered ⟨0⟩, (deck.entity r).machine = some ⟨0⟩ := by decide +kernel
  have hknown : ActionsKnown deck ⟨0⟩ := by decide +kernel
  have hconcrete : deck.StatesConcrete ⟨0⟩ := by decide +kernel
  have hsame : deck.NamesTell ⟨0⟩ [⟨5⟩] := by decide +kernel
  have htargets : ∀ event ∈ [⟨5⟩], ∀ a ∈ (deck.arcsForEvent ⟨0⟩ (deck.entity event).id false).1,
      (deck.firing a).transition.toId ≠ some allStateId := by decide +kernel
  obtain ⟨emitted, hold, hnew, _, hrendered⟩ := render_extract deck ws' ws' ⟨0⟩ ⟨1⟩ ["ui"] [⟨5⟩] (reachable_filled _ _)
    (by decide +kernel) hn hown hknown hconcrete (ok_of_toOption (by decide +kernel)) htargets hsame hextract rfl
  rw [List.flatMap_singleton] at hrendered
  exact ⟨hn, hown, hknown, hconcrete, hsame, htargets, emitted ⟨5⟩, hold ⟨5⟩ (by decide +kernel), hnew ⟨5⟩ (by simp),
    hrendered⟩

/-- The guarded arc and the one derived for the same state make two cases; the latter keeps to its state and runs its
own action only. -/
example : (functionOf deck ⟨0⟩ ⟨5⟩).toOption = some
    ["enum state on_go(enum state s) \x7b", "    switch (s) \x7b",
     "    case ST_IDLE:", "        note();", "        return ST_BUSY;",
     "    case ST_IDLE:", "        note();", "        return ST_IDLE;",
     "    case ST_BUSY:", "        beep();", "        note();", "        beep();", "        return ST_IDLE;",
     "    default:", "        return s;", "    \x7d", "\x7d", ""] := by decide +kernel

end StateMachine.SwitchTable
