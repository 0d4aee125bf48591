import StateMachine.Proofs.Bracketing
import StateMachine.Proofs.Holding
import StateMachine.Proofs.Validity

/-!
# When an extracted machine is valid

The collected arcs must find their states and events in the new machine, where the check reads ids as they stand. In a
valid source this can fail in three ways only: by an event in another letter case, by an empty id, and by brackets in
ids of events.
-/

namespace StateMachine.Workspace

/-- The reference is one of these ids, and not the empty one. -/
def Refers (ids : List String) (reference : Option String) : Prop := ∃ id ∈ ids, reference = some id ∧ id ≠ ""

/-- The ids that a new machine offers to its arcs in a role. -/
def offered (ws : Workspace) (events touched : List EntityRef) : Role → List String
  | .origin | .target => allStateId :: ws.idsOf touched
  | .event => ws.idsOf events

/-- What no two arcs may share, as the check reads it off an arc. -/
def exitText (t : Transition) : String × String := (t.fromId.getD "", eventKey t)

/-- The collected arcs refer to touched states and selected events, and their exits differ. -/
structure SelfContained (ws : Workspace) (m : MachineRef) (events touched : List EntityRef) : Prop where
  refers : ∀ a ∈ (ws.collectArcs m events).1, ∀ role : Role,
    Refers (ws.offered events touched role) (role.reference (ws.firing a).transition)
  exits : ((ws.collectArcs m events).1.map fun a => exitText (ws.firing a).transition).Nodup

section
variable {ws later : Workspace} {m clone : MachineRef} {events touched : List EntityRef}
  (h : Extracted ws later m clone events touched) (hknown : ∀ r ∈ events ++ touched, r.index < ws.entities.length)
include h hknown

theorem exists_find_iff (role : Role) (reference : Option String) :
    (∃ s, later.find clone role.kind reference = .ok (some s)) ↔
      ∃ id ∈ ws.offered events touched role, reference = some id := by
  have hevents : ∀ r ∈ events, (later.entity r).id = (ws.entity r).id := fun r hr =>
    h.id_eq r (hknown r (List.mem_append_left _ hr))
  have hstates : ∀ r ∈ touched, (later.entity r).id = (ws.entity r).id := fun r hr =>
    h.id_eq r (hknown r (List.mem_append_right _ hr))
  have hstate : (∃ s, later.find clone .state reference = .ok (some s)) ↔
      ∃ id ∈ allStateId :: ws.idsOf touched, reference = some id := by
    simp only [findState_iff h.consistent h.named, h.states.mem_iff, List.mem_cons, idsOf, List.mem_map]
    constructor
    · rintro ⟨s, rfl | hs, rfl⟩
      · exact ⟨_, Or.inl rfl, congrArg some (id_allState h.consistent h.named)⟩
      · exact ⟨_, Or.inr ⟨s, hs, rfl⟩, congrArg some (hstates s hs)⟩
    · rintro ⟨id, rfl | ⟨s, hs, rfl⟩, rfl⟩
      · exact ⟨_, Or.inl rfl, congrArg some (id_allState h.consistent h.named).symm⟩
      · exact ⟨s, Or.inr hs, congrArg some (hstates s hs).symm⟩
  cases role with
  | origin => exact hstate
  | target => exact hstate
  | event =>
    simp only [Role.kind, findMember_iff h.consistent h.named .event (by simp), h.events, offered, idsOf, List.mem_map]
    constructor
    · rintro ⟨s, hs, rfl⟩
      exact ⟨_, ⟨s, hs, rfl⟩, congrArg some (hevents s hs)⟩
    · rintro ⟨id, ⟨s, hs, rfl⟩, rfl⟩
      exact ⟨s, hs, congrArg some (hevents s hs).symm⟩

theorem Extracted.isValid_iff :
    (later.check clone).1.isValid = true ↔ ws.SelfContained m events touched := by
  have hreference : ∀ (e : Entity) (role : Role), later.referenceError? clone e role = none ↔
      Refers (ws.offered events touched role) (role.reference e.transition) := by
    intro e role
    rw [referenceError?_eq_none_iff, exists_find_iff h hknown, Refers]
    constructor
    · rintro ⟨⟨id, hid, href⟩, hne⟩
      exact ⟨id, hid, href, fun he => hne (he ▸ href)⟩
    · rintro ⟨id, hid, href, hne⟩
      exact ⟨⟨id, hid, href⟩, fun he => hne (Option.some.inj (href.symm.trans he))⟩
  have hexits : (later.members clone .arc).map later.exitOf =
      (ws.collectArcs m events).1.map fun a => exitText (ws.firing a).transition := by
    have heq := congrArg (List.map exitText) h.transitions_eq
    rw [List.map_map, List.map_map] at heq
    exact heq
  have hrefs : (∀ r ∈ later.members clone .arc, ∀ role, later.referenceError? clone (later.entity r) role = none) ↔
      ∀ a ∈ (ws.collectArcs m events).1, ∀ role : Role,
        Refers (ws.offered events touched role) (role.reference (ws.firing a).transition) := by
    simp only [hreference]
    have hall := fun p : Transition → Prop => congrArg (fun ts => ∀ t ∈ ts, p t) h.transitions_eq
    simp only [List.forall_mem_map, eq_iff_iff] at hall
    exact hall fun t => ∀ role : Role, Refers (ws.offered events touched role) (role.reference t)
  rw [Workspace.isValid_iff, hrefs, hexits]
  exact ⟨fun ⟨hr, he⟩ => ⟨hr, he⟩, fun ⟨hr, he⟩ => ⟨hr, he⟩⟩

end

/-! ## Extractions of valid machines -/

section
variable {ws : Workspace} {m : MachineRef} {events touched : List EntityRef}
  (hx : (ws.machine m).Consistent ws.kindOf ws.entities.length) (hn : ws.Named m)
  (hvalid : (ws.check m).1.isValid = true)
include hx hn hvalid

/-- The event of an arc of a valid machine is one of its events. -/
theorem event_of_valid (r : EntityRef) (hr : r ∈ ws.members m .arc) :
    (∃ e ∈ ws.members m .event, (ws.entity r).transition.eventId = some (ws.entity e).id) ∧
      (ws.entity r).transition.eventId ≠ some "" := by
  obtain ⟨⟨e, he⟩, hne⟩ := (referenceError?_eq_none_iff ws m _ .event).mp (((isValid_iff ws m).mp hvalid).1 r hr .event)
  obtain ⟨hmem, hid⟩ := (findMember_iff hx hn .event (by simp) _ e).mp he
  exact ⟨⟨e, hmem, hid⟩, hne⟩

theorem event_of_mem_collectArcs (a : FiringArc) (ha : a ∈ (ws.collectArcs m events).1) :
    (∃ e ∈ ws.members m .event, (ws.firing a).transition.eventId = some (ws.entity e).id) ∧
      (ws.firing a).transition.eventId ≠ some "" := by
  rcases cases_of_mem_collectArcs ws m events a ha with ⟨r, hr, rfl⟩ | ⟨w, hw, s, rfl⟩
  · exact event_of_valid hx hn hvalid r hr
  · exact event_of_valid hx hn hvalid w hw

omit hx hn in
/-- The target of a derived arc is empty only if its origin is. -/
theorem toId_ne_empty_of_mem_collectArcs (a : FiringArc) (ha : a ∈ (ws.collectArcs m events).1)
    (hfrom : (ws.firing a).transition.fromId ≠ some "") : (ws.firing a).transition.toId ≠ some "" := by
  have hdeclared : ∀ r ∈ ws.members m .arc, (ws.entity r).transition.toId ≠ some "" := fun r hr =>
    ((referenceError?_eq_none_iff ws m _ .target).mp (((isValid_iff ws m).mp hvalid).1 r hr .target)).2
  rcases cases_of_mem_collectArcs ws m events a ha with ⟨r, hr, rfl⟩ | ⟨w, hw, s, rfl⟩
  · exact hdeclared r hr
  · intro hempty
    rw [firing, transition_derivedFor] at hempty hfrom
    obtain ⟨id, hid, heq⟩ := Option.map_eq_some_iff.mp hempty
    split at heq
    · exact hfrom (congrArg some heq)
    · exact hdeclared w hw (hid.trans (congrArg some heq))

variable (hb : ws.ArcsBelong m) (htouched : ws.touchedStates (ws.collectArcs m events).1 = .ok touched)
include hb htouched

omit hvalid in
/-- The states of collected arcs are touched. -/
theorem offered_of_mem_collectArcs (a : FiringArc) (ha : a ∈ (ws.collectArcs m events).1) :
    (∃ id ∈ allStateId :: ws.idsOf touched, (ws.firing a).transition.fromId = some id) ∧
      ∃ id ∈ allStateId :: ws.idsOf touched, (ws.firing a).transition.toId = some id := by
  obtain ⟨event, _, hfires⟩ := mem_collectArcs ws m events a ha
  obtain ⟨f, t, hends, hf, ht, hfrom, hto⟩ := endpoints_of_mem_arcsForEvent hx hn hb _ a hfires
  have hstate : ∀ s ∈ ws.members m .state, s = f ∨ s = t → (ws.entity s).id ∈ allStateId :: ws.idsOf touched :=
    fun s hs hst => List.mem_cons_of_mem _ (List.mem_map_of_mem (mem_touched_of_state hx hn ha hends hst htouched hs))
  refine ⟨⟨_, hstate f hf (Or.inl rfl), hfrom⟩, _, ?_, hto⟩
  rcases ht with rfl | ht
  · rw [id_allState hx hn]
    exact List.mem_cons_self
  · exact hstate t ht (Or.inr rfl)

/-- What can make the extraction of a valid machine invalid: an event in another letter case, an empty id, and exits
that differ but read the same. -/
theorem selfContained_iff : ws.SelfContained m events touched ↔
    (∀ a ∈ (ws.collectArcs m events).1, ∃ e ∈ events, (ws.firing a).transition.eventId = some (ws.entity e).id) ∧
    (∀ a ∈ (ws.collectArcs m events).1, (ws.firing a).transition.fromId ≠ some "") ∧
    ((ws.collectArcs m events).1.map fun a => exitText (ws.firing a).transition).Nodup := by
  constructor
  · intro h
    refine ⟨?_, ?_, h.exits⟩
    · intro a ha
      obtain ⟨id, hid, href, _⟩ := h.refers a ha .event
      obtain ⟨e, he, rfl⟩ := List.mem_map.mp hid
      exact ⟨e, he, href⟩
    · intro a ha hempty
      obtain ⟨id, _, href, hne⟩ := h.refers a ha .origin
      exact hne (Option.some.inj (href.symm.trans hempty))
  · rintro ⟨hevents, hfrom, hexits⟩
    refine ⟨fun a ha role => ?_, hexits⟩
    obtain ⟨⟨f, hf, hfid⟩, t, ht, htid⟩ := offered_of_mem_collectArcs hx hn hb htouched a ha
    cases role with
    | origin => exact ⟨f, hf, hfid, fun he => hfrom a ha (he ▸ hfid)⟩
    | target =>
      have hto := toId_ne_empty_of_mem_collectArcs hvalid a ha (hfrom a ha)
      exact ⟨t, ht, htid, fun he => hto (he ▸ htid)⟩
    | event =>
      obtain ⟨e, he, hid⟩ := hevents a ha
      have hne := (event_of_mem_collectArcs hx hn hvalid a ha).2
      exact ⟨_, List.mem_map_of_mem he, hid, fun hempty => hne (hempty ▸ hid)⟩

end

/-! ## Plain ids -/

/-- No two events have ids that differ in letter case only, no event has a bracket in its id, and no state has the empty
id. -/
structure PlainIds (ws : Workspace) (m : MachineRef) : Prop where
  events : ((ws.members m .event).map fun r => Text.upper (ws.entity r).id).Nodup
  brackets : ∀ r ∈ ws.members m .event, '[' ∉ (ws.entity r).id.toList
  states : ∀ r ∈ ws.members m .state, (ws.entity r).id ≠ ""

section
variable {ws : Workspace} {m : MachineRef} {events touched : List EntityRef}
  (hx : (ws.machine m).Consistent ws.kindOf ws.entities.length) (hn : ws.Named m)
  (hvalid : (ws.check m).1.isValid = true) (hplain : ws.PlainIds m)
include hx hn hvalid hplain

/-- The event of an arc that fires is the one that it fires on. -/
theorem event_selected_of_plain (hevents : ∀ e ∈ events, e ∈ ws.members m .event) (a : FiringArc)
    (ha : a ∈ (ws.collectArcs m events).1) : ∃ e ∈ events, (ws.firing a).transition.eventId = some (ws.entity e).id := by
  obtain ⟨e, he, hfires⟩ := mem_collectArcs ws m events a ha
  obtain ⟨⟨d, hd, hid⟩, _⟩ := event_of_mem_collectArcs hx hn hvalid a ha
  have hon := isOn_of_mem_arcsForEvent ws m _ false a hfires
  have hself : (ws.firing a).isOn (ws.entity d).id = true := by
    rw [Entity.isOn, hid]
    exact beq_self_eq_true _
  obtain rfl : d = e := List.inj_on_of_nodup_map hplain.events hd (hevents e he) (upper_eq_of_isOn _ _ _ hself hon)
  exact ⟨d, he, hid⟩

theorem exits_nodup_of_plain (hb : ws.ArcsBelong m) :
    ((ws.collectArcs m events).1.map fun a => exitText (ws.firing a).transition).Nodup := by
  refine (nodup_names_collectArcs ws m events).of_map.map_on ?_
  intro a ha b hb' hexit
  have hfired := fun c hc => ((mem_collectArcs_iff ws m events c).mp hc).mem
  obtain ⟨⟨d, hd, hdid⟩, _⟩ := event_of_mem_collectArcs hx hn hvalid a ha
  obtain ⟨⟨e, he, heid⟩, _⟩ := event_of_mem_collectArcs hx hn hvalid b hb'
  obtain ⟨_, _, hafires⟩ := mem_collectArcs ws m events a ha
  obtain ⟨_, _, hbfires⟩ := mem_collectArcs ws m events b hb'
  obtain ⟨f, _, _, _, _, hf, _⟩ := endpoints_of_mem_arcsForEvent hx hn hb _ a hafires
  obtain ⟨g, _, _, _, _, hg, _⟩ := endpoints_of_mem_arcsForEvent hx hn hb _ b hbfires
  obtain ⟨hfrom, hkey⟩ := Prod.mk.inj hexit
  rw [hf, hg] at hfrom
  -- Without a bracket in the event, the text of an exit tells event and guard apart.
  obtain ⟨hevent, hguard⟩ := eventKey_inj _ _ (by rw [hdid]; exact hplain.brackets d hd)
    (by rw [heid]; exact hplain.brackets e he) hkey
  rw [hdid, heid] at hevent
  refine eq_of_mem_fired ws m events a b (hfired a ha) (hfired b hb') ?_ ?_ hguard
  · rw [hf, hg]
    exact congrArg some hfrom
  · rw [hdid, heid]
    exact congrArg some hevent

end

/-- The new machine is valid exactly if the collected arcs are self-contained. If the source is valid, this can fail in
three ways only, and none of them is possible with plain ids. -/
theorem isValid_extract_iff (ws ws' later : Workspace) (m clone : MachineRef) (specifiers : List String)
    (events : List EntityRef) (hreach : ws.Reachable) (hm : m.index < ws.machines.length)
    (hselected : ws.matchingEvents m specifiers = .ok events)
    (hextract : ws.extract m specifiers = (ws', .ok clone)) (hlater : later.bare = ws'.bare) :
    ∃ touched, ws.touchedStates (ws.collectArcs m events).1 = .ok touched ∧
      ((later.check clone).1.isValid = true ↔ ws.SelfContained m events touched) ∧
      ((ws.check m).1.isValid = true → ws.ArcsBelong m → ws.Named m →
        (ws.SelfContained m events touched ↔
          (∀ a ∈ (ws.collectArcs m events).1,
            ∃ e ∈ events, (ws.firing a).transition.eventId = some (ws.entity e).id) ∧
          (∀ a ∈ (ws.collectArcs m events).1, (ws.firing a).transition.fromId ≠ some "") ∧
          ((ws.collectArcs m events).1.map fun a => exitText (ws.firing a).transition).Nodup) ∧
        (ws.PlainIds m → ws.SelfContained m events touched)) := by
  have hc := hreach.consistent
  have hx := hc.machine m hm
  have hsublist := matchingEvents_sublist ws m specifiers events hselected
  obtain ⟨touched, htouched, hextracted⟩ := extracted_of_extract hc hm hselected hextract hlater
  have hknown : ∀ r ∈ events ++ touched, r.index < ws.entities.length := by
    intro r hr
    rcases List.mem_append.mp hr with hr | hr
    · exact (known_of_mem_members hx .event r (hsublist.subset hr)).1
    · obtain ⟨_, a, _, f, t, hends, hst⟩ := ((touched_collected htouched).2 r).mp hr
      obtain ⟨hf, ht⟩ := kindOf_endpoints ws _ f t hends
      apply known_of_holds
      rcases hst with rfl | rfl
      · rw [hf]
        rfl
      · rw [ht]
        rfl
  refine ⟨touched, htouched, hextracted.isValid_iff hknown, fun hvalid hb hn => ?_⟩
  have hiff := selfContained_iff hx hn hvalid hb htouched
  refine ⟨hiff, fun hplain => hiff.mpr ⟨?_, ?_, exits_nodup_of_plain hx hn hvalid hplain hb⟩⟩
  · exact event_selected_of_plain hx hn hvalid hplain fun e he => hsublist.subset he
  · intro a ha hempty
    obtain ⟨_, _, hfires⟩ := mem_collectArcs ws m events a ha
    obtain ⟨f, _, _, hf, _, hfrom, _⟩ := endpoints_of_mem_arcsForEvent hx hn hb _ a hfires
    exact hplain.states f hf (Option.some.inj (hfrom.symm.trans hempty))

theorem isValid_extract_iff_shadowed :
    (shadowed.check ⟨0⟩).1.isValid = true ∧ shadowed.ArcsBelong ⟨0⟩ ∧ shadowed.Named ⟨0⟩ ∧ shadowed.PlainIds ⟨0⟩ ∧
      ((shadowed.extract ⟨0⟩ []).1.check ⟨1⟩).1.isValid = true := by
  have hplain : shadowed.PlainIds ⟨0⟩ := ⟨by decide +kernel, by decide +kernel, by decide +kernel⟩
  refine ⟨by decide +kernel, by decide +kernel, by decide +kernel, hplain, ?_⟩
  obtain ⟨touched, _, hvalid, hsource⟩ := isValid_extract_iff shadowed _ _ ⟨0⟩ ⟨1⟩ [] _ (reachable_filled _ _)
    (by decide +kernel) rfl extract_shadowed rfl
  exact hvalid.mpr ((hsource (by decide +kernel) (by decide +kernel) (by decide +kernel)).2 hplain)

/-- Two events whose ids differ in letter case and that are meant for different targets, and an arc on one of them. -/
def caseEvents : Workspace := filled "m"
  [{ id := "s", detail := .state [] [] none }, { id := "t", detail := .state [] [] none },
   { id := "go", detail := .event (some "ui") }, { id := "GO", detail := .event (some "io") },
   { id := "a", detail := .arc { fromId := some "s", toId := some "t", eventId := some "GO" } }]

/-- A valid machine whose arcs and names are in order can be extracted to an invalid one. -/
theorem not_isValid_extract_caseEvents :
    ¬ ∀ (ws ws' : Workspace) (m clone : MachineRef) (specifiers : List String) (events : List EntityRef),
      ws.Reachable → (ws.check m).1.isValid = true → ws.ArcsBelong m → ws.Named m →
      ws.matchingEvents m specifiers = .ok events → ws.extract m specifiers = (ws', .ok clone) →
        (ws'.check clone).1.isValid = true := by
  intro h
  have hvalid := h caseEvents _ ⟨0⟩ ⟨1⟩ ["ui"] [⟨3⟩] (reachable_filled _ _) (by decide +kernel) (by decide +kernel)
    (by decide +kernel) (ok_of_toOption (by decide +kernel))
    (extract_of_toOption caseEvents ⟨0⟩ ⟨1⟩ ["ui"] (by decide +kernel))
  exact absurd hvalid (by decide +kernel)

end StateMachine.Workspace
