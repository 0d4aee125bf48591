import StateMachine.Proofs.Simulation

/-!
# Extracting twice

The machine that an extraction makes is extracted once more, for the same targets. All its events are selected again,
its arcs fire as they stand, and each of them is kept, so that nothing is added, lost or moved.
-/

namespace StateMachine.Workspace

theorem Head.message_ne_empty (h : Head) : h.message ≠ "" := by
  rcases Head.message_cases h with ⟨-, hne⟩ | hmessage
  · exact hne
  · rw [hmessage]
    decide

/-- The message that is read is not empty, so that a copy reads it too. -/
theorem Head.message_copied (h : Head) : (Head.copied h).message = h.message := by
  change (if h.message.isEmpty then none else some h.message).getD defaultMessage = h.message
  rw [if_neg (fun hempty => Head.message_ne_empty h (String.isEmpty_iff.mp hempty))]
  rfl

theorem Head.copied_copied (h : Head) : Head.copied (Head.copied h) = Head.copied h := by
  rw [Head.copied, Head.message_copied]
  rfl

theorem eq_of_names_eq (ws : Workspace) (xs ys : List FiringArc) (hsub : xs ⊆ ys) (hnodup : (ys.map ws.nameOf).Nodup)
    (h : xs.map ws.nameOf = ys.map ws.nameOf) : xs = ys := by
  refine List.ext_getElem (by simpa using congrArg List.length h) fun i hx hy => ?_
  apply List.inj_on_of_nodup_map hnodup (hsub (List.getElem_mem hx)) (List.getElem_mem hy)
  have hname := congrArg (·[i]?) h
  simpa [hx, hy] using hname

namespace Extracted

variable {ws later : Workspace} {m clone : MachineRef} {events touched : List EntityRef}
  (h : Extracted ws later m clone events touched)
  (hx : (ws.machine m).Consistent ws.kindOf ws.entities.length) (hn : ws.Named m) (hb : ws.ArcsBelong m)
  (hconcrete : ws.StatesConcrete m) (htouched : ws.touchedStates (ws.collectArcs m events).1 = .ok touched)
  (hevents : events.Sublist (ws.members m .event))
include h

/-! ## The arcs -/

theorem map_nameOf_arcs : ((later.members clone .arc).map FiringArc.declared).map later.nameOf =
    (ws.gather m events).map ws.nameOf := by
  have hcopies := congrArg (List.map Entity.id) h.arcs
  rw [collectArcs_eq_gather, List.map_map, List.map_map] at hcopies
  rw [List.map_map]
  exact hcopies

include hx hevents

theorem id_event (event : EntityRef) (he : event ∈ events) : (later.entity event).id = (ws.entity event).id :=
  h.id_eq event (known_of_mem_members hx .event event (hevents.subset he)).1

include hn hb hconcrete htouched

theorem map_nameOf_fired : (later.fired clone events).map later.nameOf = (events.flatMap fun event =>
    (ws.gather m events).filter fun a => (ws.firing a).isOn (ws.entity event).id).map ws.nameOf := by
  rw [fired, List.map_flatMap, List.map_flatMap]
  refine List.flatMap_congr fun event he => ?_
  have hnames := congrArg (List.map Entity.id) (h.map_arcsOn (ws.entity event).id)
  rw [collectArcs_eq_gather, List.map_map, List.map_map] at hnames
  rw [h.id_event hx hevents event he, h.arcsForEvent_eq hx hn hb htouched hconcrete, List.map_map]
  exact hnames

/-- All arcs of the new machine are collected again, in their order. -/
theorem collectArcs_eq : (later.collectArcs clone events).1 = (later.members clone .arc).map .declared := by
  -- No two arcs of the new machine have one id, so that it is enough to compare ids.
  refine eq_of_names_eq later _ _ ?_ ?_ ?_
  · intro a ha
    obtain ⟨event, _, hfires⟩ := mem_collectArcs later clone events a ha
    rw [h.arcsForEvent_eq hx hn hb htouched hconcrete] at hfires
    obtain ⟨r, hr, rfl⟩ := List.mem_map.mp hfires
    exact List.mem_map_of_mem (List.mem_filter.mp hr).1
  · rw [h.map_nameOf_arcs]
    exact nodup_names_gather ws m events
  · have hpicked := congrArg (List.map ws.nameOf) (keepNew_picked ws m events)
    rw [map_nameOf_keepNew] at hpicked
    rw [h.map_nameOf_arcs, collectArcs_eq_gather, gather_eq, map_nameOf_keepNew,
      h.map_nameOf_fired hx hn hb hconcrete htouched hevents]
    exact hpicked

/-! ## The states -/

/-- The copies touch all states of the new machine. -/
theorem mem_touched_again (touched' : List EntityRef)
    (htouched' : later.touchedStates (later.collectArcs clone events).1 = .ok touched') (s : EntityRef) :
    s ∈ touched' ↔ s ∈ later.members clone .state := by
  constructor
  · intro hs
    obtain ⟨hstate, a, ha, f, t, hends, hst⟩ := ((touched_collected htouched').2 s).mp hs
    exact mem_states_of_touched h.consistent h.named h.belong ha hends hst hstate
  · intro hs
    obtain ⟨_, a, ha, f, t, hends, hst⟩ := ((touched_collected htouched).2 s).mp (h.states.mem_iff.mp hs)
    obtain ⟨f', t', u, hends', _, hsame, hcopied⟩ := h.endpoints_taken hx hn hb htouched a ha
    obtain ⟨rfl, rfl⟩ := Prod.mk.inj (Option.some.inj (hends.symm.trans hends'))
    obtain ⟨r, hr, heq⟩ := h.exists_copy a ha
    have hendpoint : s = f ∨ s = u := by
      refine hst.imp_right fun heq => ?_
      rw [heq] at hs ⊢
      exact (hsame ((h.states_sublist hn hb).subset hs)).symm
    have hcollected : .declared r ∈ (later.collectArcs clone events).1 := by
      rw [h.collectArcs_eq hx hn hb hconcrete htouched hevents]
      exact List.mem_map_of_mem hr
    exact mem_touched_of_state h.consistent h.named hcollected ((congrArg later.endpoints? heq).trans hcopied) hendpoint
      htouched' hs

/-! ## No clash -/

theorem nodup_names (touched' : List EntityRef)
    (htouched' : later.touchedStates (later.collectArcs clone events).1 = .ok touched') :
    (later.names clone events touched' (later.collectArcs clone events).1).Nodup := by
  obtain ⟨hnodup, _⟩ := touched_collected htouched'
  have hcollected := h.collectArcs_eq hx hn hb hconcrete htouched hevents
  have hdeclared : ∀ e, .derived e ∉ (later.collectArcs clone events).1 := by
    intro e he
    rw [hcollected] at he
    obtain ⟨_, _, heq⟩ := List.mem_map.mp he
    cases heq
  have hown : (later.machine clone).head.id = (later.machine clone).registry.reserved := by
    rw [h.head, h.reserved]
    rfl
  rw [nodup_names_iff_derived h.consistent h.named hown (by rw [h.events])
    (fun s => (h.mem_touched_again hx hn hb hconcrete htouched hevents _ htouched' s).mp) hnodup _
    (nodup_names_collectArcs later clone events)]
  · exact fun e he => absurd he (hdeclared e)
  · intro r hr
    rw [hcollected] at hr
    obtain ⟨s, hs, heq⟩ := List.mem_map.mp hr
    exact FiringArc.declared.inj heq ▸ hs
  · exact fun e he => absurd he (hdeclared e)

/-! ## The machine that is made again -/

section
variable {final : Workspace} {again : MachineRef} {touched' : List EntityRef}
  (htouched' : later.touchedStates (later.collectArcs clone events).1 = .ok touched')
  (h' : Extracted later final clone again events touched')
include h'

theorem detached_arcs_again : (final.members again .arc).map (fun r => (final.entity r).detached) =
    (later.members clone .arc).map fun r => (later.entity r).detached := by
  have hcopies := congrArg (List.map Entity.detached) h'.arcs
  rw [h.collectArcs_eq hx hn hb hconcrete htouched hevents, List.map_map, List.map_map, List.map_map] at hcopies
  refine hcopies.trans (List.map_congr_left fun r hr => ?_)
  obtain ⟨a, _, heq⟩ := h.exists_taken r hr
  change { later.entity r with machine := none }.named.detached = (later.entity r).detached
  rw [heq]
  rfl

include htouched'

theorem members_again (kind : Kind) (hkind : kind ≠ .arc) : final.members again kind = later.members clone kind := by
  cases kind with
  | plain => rw [members_plain h'.consistent, members_plain h.consistent]
  | event => rw [h'.events, h.events]
  | state =>
    rw [h'.ordered h.named h.belong, List.filter_eq_self]
    intro s hs
    rw [decide_eq_true_eq, h.mem_touched_again hx hn hb hconcrete htouched hevents _ htouched']
    exact hs
  | arc => exact absurd rfl hkind
  | bundle => exact h'.bundles
  | action => exact h'.actions

end

end Extracted

/-! ## Once more -/

/-- The new machine can be extracted for the same targets. That leaves it as it is, and makes a machine with the same
head, the same entities in the same order, and arcs that say the same. -/
theorem extract_extract (ws ws' later : Workspace) (m clone : MachineRef) (specifiers : List String)
    (hreach : ws.Reachable) (hm : m.index < ws.machines.length) (hb : ws.ArcsBelong m) (hn : ws.Named m)
    (hconcrete : ws.StatesConcrete m) (hextract : ws.extract m specifiers = (ws', .ok clone))
    (hlater : later.bare = ws'.bare) :
    ∃ final again, later.extract clone specifiers = (final, .ok again) ∧ Agrees later final clone ∧
      (final.machine again).head = (later.machine clone).head ∧
      (∀ kind ≠ .arc, final.members again kind = later.members clone kind) ∧
      (final.members again .arc).map (fun r => (final.entity r).detached) =
        (later.members clone .arc).map fun r => (later.entity r).detached := by
  have hc := hreach.consistent
  have hx := hc.machine m hm
  obtain ⟨fault, _, herror⟩ | ⟨events, _, hselected, _⟩ := extract_cases ws m specifiers
  · rw [hextract] at herror
    cases (Prod.mk.inj herror).2
  have hevents := matchingEvents_sublist ws m specifiers events hselected
  obtain ⟨touched, htouched, h⟩ := extracted_of_extract hc hm hselected hextract hlater
  have hclater : later.Consistent := by
    have hextracted := consistent_extract ws m specifiers hc
    rw [hextract] at hextracted
    exact consistent_of_bare_eq hlater hextracted
  have hselected' : later.matchingEvents clone specifiers = .ok events :=
    matchingEvents_of_selected hselected h.events (h.id_event hx hevents) fun event he =>
      h.eventType_eq event (known_of_mem_members hx .event event (hevents.subset he)).1
  obtain ⟨touched', ready, htouched', hready, ⟨_, journal, hok⟩ | ⟨_, id, _, _, _, hcount⟩⟩ :=
    extract_of_matching later clone specifiers events hclater h.inRange hselected'
  · obtain ⟨_, hsame, h'⟩ := extracted_of_extract hclater h.inRange hselected' hok rfl
    obtain rfl := Except.ok.inj (htouched'.symm.trans hsame)
    refine ⟨_, _, hok, h'.source, ?_, h.members_again hx hn hb hconcrete htouched hevents htouched' h',
      h.detached_arcs_again hx hn hb hconcrete htouched hevents h'⟩
    rw [h'.head, h.head, Head.copied_copied]
  · -- A failure would name an id that is given out twice.
    have hnodup := h.nodup_names hx hn hb hconcrete htouched hevents touched' htouched'
    rw [← (names_of_ready hready _).nodup_iff] at hnodup
    have hone := List.nodup_iff_count_le_one.mp hnodup id
    omega

/-- A machine with an arc for every state, whose events differ in letter case and in their targets. -/
def gate : Workspace := filled "m"
  [{ id := "s", detail := .state [] [] none }, { id := "t", detail := .state [] [] none },
   { id := "go", detail := .event (some "ui") }, { id := "GO", detail := .event (some "ui|io") },
   { id := "off", detail := .event (some "io") }, { id := "k", detail := .bundle },
   { id := "w", detail := .arc { fromId := some "#ALL", toId := some "#ALL", eventId := some "go" } },
   { id := "a", detail := .arc { fromId := some "t", toId := some "s", eventId := some "GO" } },
   { id := "b", detail := .arc { fromId := some "s", toId := some "t", eventId := some "off" } }]

theorem extract_gate : gate.extract ⟨0⟩ ["ui"] = ((gate.extract ⟨0⟩ ["ui"]).1, .ok ⟨1⟩) :=
  extract_of_toOption gate ⟨0⟩ ⟨1⟩ ["ui"] (by decide +kernel)

theorem extract_extract_gate :
    let later := (gate.extract ⟨0⟩ ["ui"]).1
    gate.ArcsBelong ⟨0⟩ ∧ gate.Named ⟨0⟩ ∧ gate.StatesConcrete ⟨0⟩ ∧ (later.members ⟨1⟩ .arc).length = 2 ∧
      ∃ final again, later.extract ⟨1⟩ ["ui"] = (final, .ok again) ∧
        (final.members again .arc).map (fun r => (final.entity r).detached) =
          (later.members ⟨1⟩ .arc).map fun r => (later.entity r).detached := by
  refine ⟨by decide +kernel, by decide +kernel, by decide +kernel, by decide +kernel, ?_⟩
  obtain ⟨final, again, hok, _, _, _, harcs⟩ := extract_extract gate _ _ ⟨0⟩ ⟨1⟩ ["ui"] (reachable_filled _ _)
    (by decide +kernel) (by decide +kernel) (by decide +kernel) (by decide +kernel) extract_gate rfl
  exact ⟨final, again, hok, harcs⟩

end StateMachine.Workspace
