import StateMachine.Proofs.Mirroring
import StateMachine.Proofs.Ordering
import StateMachine.Proofs.Rendering

/-!
# Labels and constants of switch tables

If a check finds no shared constants, each constant names one state. The labels of a function are then as distinct as
the states that its arcs leave, and all states that are named are declared. Guards do not show in a label, and `#ALL`
is never declared.
-/

namespace StateMachine.SwitchTable

open Workspace

/-! ## Constants that nobody shares -/

section
variable {ws : Workspace} {m : MachineRef}

/-- If no constants are shared, no two registered entities name the same one. -/
theorem nodup_enumIds (hwarnings : (ws.check m).1.warnings = []) :
    ((ws.registered m).map fun r => (ws.entity r).enumId).Nodup := by
  have hnone : ws.sharedConstants m = [] := by
    rw [check_eq_examine] at hwarnings
    exact List.map_eq_nil_iff.mp hwarnings
  rw [List.nodup_iff_count_le_one]
  intro enumId
  by_contra hmany
  have hshared : (enumId, (ws.registered m).filter fun r => (ws.entity r).enumId = enumId) ∈ ws.sharedConstants m := by
    refine (mem_sharedConstants_iff ws m enumId _).mpr ⟨?_, rfl⟩
    rw [List.count, List.countP_map, List.countP_eq_length_filter] at hmany
    simp only [Function.comp_def, beq_eq_decide] at hmany
    omega
  rw [hnone] at hshared
  cases hshared

/-- What is registered without sharing a constant is registered once. -/
theorem id_unique (hwarnings : (ws.check m).1.warnings = []) {i j : String} {r : EntityRef}
    (hi : (i, r) ∈ (ws.machine m).registry.entries) (hj : (j, r) ∈ (ws.machine m).registry.entries) : i = j := by
  have hrefs : ((ws.machine m).registry.entries.map (·.2)).Nodup := (nodup_enumIds hwarnings).of_map
  exact (Prod.mk.inj (List.inj_on_of_nodup_map hrefs hi hj rfl)).1

/-- States with the same constant are the same, unless one names `None` and the other names nothing. -/
theorem eq_of_constant_eq (hwarnings : (ws.check m).1.warnings = []) {f g : EntityRef} (hf : f ∈ ws.registered m)
    (hg : g ∈ ws.registered m) (hfg : (ws.entity f).enumId = none → (ws.entity g).enumId ≠ some "None")
    (hgf : (ws.entity g).enumId = none → (ws.entity f).enumId ≠ some "None")
    (h : constant (ws.entity f) = constant (ws.entity g)) : f = g := by
  have hsame : (ws.entity f).enumId = (ws.entity g).enumId := by
    rw [constant, constant, String.append_right_inj] at h
    cases hx : (ws.entity f).enumId with
    | none =>
      cases hy : (ws.entity g).enumId with
      | none => rfl
      | some y =>
        rw [hx, hy] at h
        exact absurd (hy.trans (congrArg some h.symm)) (hfg hx)
    | some x =>
      cases hy : (ws.entity g).enumId with
      | none =>
        rw [hx, hy] at h
        exact absurd (hx.trans (congrArg some h)) (hgf hy)
      | some y =>
        rw [hx, hy] at h
        exact congrArg some h
  exact List.inj_on_of_nodup_map (nodup_enumIds hwarnings) hf hg hsame

end

/-! ## Cases -/

/-- A case of a function: an arc that fires, the states that it leaves and enters, and the actions that it runs. -/
structure Case (ws : Workspace) where
  arc : FiringArc
  origin : EntityRef
  target : EntityRef
  actions : List EntityRef
  ends_eq : ws.endpoints? (ws.firing arc) = some (origin, target)
  actions_eq : SwitchTable.actions ws (ws.firing arc) origin target = .ok actions

namespace Case

variable {ws : Workspace}

/-- The line that names the state that the case is for. -/
def label (c : Case ws) : String := s!"    case {constant (ws.entity c.origin)}:"

/-- The line that answers the next state. -/
def answer (c : Case ws) : String := s!"        return {constant (ws.entity c.target)};"

def lines (c : Case ws) : List String := c.label :: c.actions.map (fun a => actionLine (ws.entity a)) ++ [c.answer]

end Case

/-- What is made one by one of a list can be read back, if this is so for each element. -/
theorem exists_of_mapM {ε α β γ : Type} {f : α → Except ε β} (back : γ → α) (text : γ → β) {xs : List α} {ys : List β}
    (h : xs.mapM f = .ok ys) (hread : ∀ x ∈ xs, ∀ y, f x = .ok y → ∃ c, back c = x ∧ text c = y) :
    ∃ cs : List γ, cs.map back = xs ∧ cs.map text = ys := by
  induction xs generalizing ys with
  | nil =>
    obtain rfl := Except.ok.inj h
    exact ⟨[], rfl, rfl⟩
  | cons x rest ih =>
    rw [List.mapM_cons] at h
    cases hx : f x with
    | error fault =>
      rw [hx] at h
      cases h
    | ok y =>
      cases hrest : rest.mapM f with
      | error fault =>
        rw [hx, hrest] at h
        cases h
      | ok others =>
        rw [hx, hrest] at h
        obtain rfl := Except.ok.inj h
        obtain ⟨c, rfl, rfl⟩ := hread x List.mem_cons_self y hx
        obtain ⟨cs, rfl, rfl⟩ := ih hrest fun x' hx' => hread x' (List.mem_cons_of_mem _ hx')
        exact ⟨c :: cs, rfl, rfl⟩

theorem exists_case {ws : Workspace} {m : MachineRef} {eventId : String} {a : FiringArc}
    (ha : a ∈ (ws.arcsForEvent m eventId false).1) {text : List String}
    (htext : caseLines ws (ws.firing a) = .ok text) : ∃ c : Case ws, c.arc = a ∧ c.lines = text := by
  obtain ⟨⟨f, t⟩, hends⟩ := Option.isSome_iff_exists.mp (candidate_of_mem_arcsForEvent ws m _ false a ha).2
  simp only [caseLines, hends] at htext
  cases hactions : actions ws (ws.firing a) f t with
  | error fault =>
    rw [hactions] at htext
    cases htext
  | ok found =>
    rw [hactions] at htext
    exact ⟨⟨a, f, t, found, hends, hactions⟩, rfl, Except.ok.inj htext⟩

/-! ## Functions -/

/-- The function of an event: a case for each arc that fires. -/
structure EventFunction (ws : Workspace) (m : MachineRef) where
  event : EntityRef
  cases : List (Case ws)
  arcs_eq : cases.map Case.arc = (ws.arcsForEvent m (ws.entity event).id false).1

def EventFunction.lines {ws : Workspace} {m : MachineRef} (f : EventFunction ws m) : List String :=
  functionLines (ws.entity f.event).id (f.cases.flatMap Case.lines)

theorem EventFunction.labels_eq {ws : Workspace} {m : MachineRef} (f : EventFunction ws m) :
    f.cases.map (some ∘ Case.label) = (ws.arcsForEvent m (ws.entity f.event).id false).1.map fun a =>
      (ws.endpoints? (ws.firing a)).map fun ends => s!"    case {constant (ws.entity ends.1)}:" := by
  rw [← f.arcs_eq, List.map_map]
  refine List.map_congr_left fun c _ => ?_
  rw [Function.comp_apply, Function.comp_apply, c.ends_eq, Option.map_some, Case.label]

theorem exists_function {ws : Workspace} {m : MachineRef} {event : EntityRef} {lines : List String}
    (h : functionOf ws m event = .ok lines) : ∃ f : EventFunction ws m, f.event = event ∧ f.lines = lines := by
  rw [functionOf, cases] at h
  cases htexts : (ws.arcsForEvent m (ws.entity event).id false).1.mapM fun a => caseLines ws (ws.firing a) with
  | error fault =>
    rw [htexts] at h
    cases h
  | ok texts =>
    rw [htexts] at h
    obtain ⟨cs, harcs, rfl⟩ := exists_of_mapM Case.arc Case.lines htexts fun a ha text htext => exists_case ha htext
    exact ⟨⟨event, cs, harcs⟩, rfl, Except.ok.inj h⟩

/-- A switch table that is rendered has a function for each event, and nothing else between its opening and its
closing. -/
theorem exists_functions {ws : Workspace} {m : MachineRef} {text : String} (h : (render ws m).2 = .ok text) :
    ∃ functions : List (EventFunction ws m), functions.map EventFunction.event = ws.members m .event ∧
      text = joinLines (opening ws m ++ functions.flatMap EventFunction.lines ++ closing ws m) := by
  rw [render_eq] at h
  cases htexts : (ws.members m .event).mapM (functionOf ws m) with
  | error fault =>
    rw [htexts] at h
    cases h
  | ok texts =>
    rw [htexts] at h
    obtain ⟨functions, hevents, rfl⟩ := exists_of_mapM EventFunction.event EventFunction.lines htexts
      fun event _ lines hlines => exists_function hlines
    exact ⟨functions, hevents, (Except.ok.inj h).symm⟩

/-! ## Labels and constants -/

/-- The constants that a switch table declares. -/
def declared (ws : Workspace) (m : MachineRef) : List String :=
  (ws.states m).1.map fun r => constant ((ws.states m).2.entity r)

theorem constant_mem_declared {ws : Workspace} {m : MachineRef} {s : EntityRef} (hs : s ∈ ws.members m .state) :
    constant (ws.entity s) ∈ declared ws m := by
  have hbare : (ws.states m).2.bare = ws.bare := bare_renumber ws m
  refine List.mem_map.mpr ⟨s, ?_, by rw [constant, enumId_of_bare_eq hbare, constant]⟩
  exact (mem_sorted _ _ s).mpr (by rwa [members_of_bare_eq (bare_renumber ws m)])

/-- An enumeration of constants, one in each line. -/
def declaration (names numbers : List String) : List String :=
  "enum state \x7b" :: List.zipWith (fun name number => s!"    {name} = {number},") names numbers ++ ["\x7d;", ""]

theorem opening_eq (ws : Workspace) (m : MachineRef) : ∃ before numbers,
    numbers.length = (declared ws m).length ∧ opening ws m = before ++ declaration (declared ws m) numbers := by
  refine ⟨s!"/* {(ws.machine m).head.message} */" ::
    (stated? (ws.machine m).head.preamble).toList.map withoutFinalBreaks ++ [""],
    (ws.states m).1.map fun r => (((ws.states m).2.entity r).number.map toString).getD "None", ?_, ?_⟩
  · rw [declared, List.length_map, List.length_map]
  · rw [declaration, declared, List.zipWith_map, List.zipWith_self]
    simp [opening, enumeration, constant]

/-- The labels of a function differ for different origins, and what it names is declared, except for `#ALL`. -/
structure WellFormed {ws : Workspace} {m : MachineRef} (f : EventFunction ws m) : Prop where
  labels : f.cases.Pairwise fun c d => c.label = d.label →
    c.origin = d.origin ∧ (ws.firing c.arc).transition.guard ≠ (ws.firing d.arc).transition.guard
  origins : ∀ c ∈ f.cases, constant (ws.entity c.origin) ∈ declared ws m
  targets : ∀ c ∈ f.cases, (ws.firing c.arc).transition.toId ≠ some allStateId →
    constant (ws.entity c.target) ∈ declared ws m

section
variable {ws : Workspace} {m : MachineRef} (hx : (ws.machine m).Consistent ws.kindOf ws.entities.length)
include hx

theorem mem_states_of_entries_ne {i : String} {r : EntityRef} (h : (i, r) ∈ (ws.machine m).registry.entries)
    (hkind : ws.kindOf r = .state) (hi : i ≠ allStateId) : r ∈ ws.members m .state := by
  rw [hx.entries_eq] at h
  rcases List.mem_cons.mp h with h | h
  · exact absurd (Prod.mk.inj h).1 hi
  · exact (mem_members_iff hx .state r).mpr ⟨i, h, hkind⟩

variable (hb : ws.ArcsBelong m)
include hb

/-- The states of a case are registered under the ids that its arc holds. -/
theorem entries_of_case {f : EventFunction ws m} {c : Case ws} (hc : c ∈ f.cases) : ∃ i j,
    ((ws.firing c.arc).transition.fromId = some i ∧ (i, c.origin) ∈ (ws.machine m).registry.entries ∧
      ws.kindOf c.origin = .state) ∧
    ((ws.firing c.arc).transition.toId = some j ∧ (j, c.target) ∈ (ws.machine m).registry.entries ∧
      ws.kindOf c.target = .state) := by
  have harc : c.arc ∈ (ws.arcsForEvent m (ws.entity f.event).id false).1 := f.arcs_eq ▸ List.mem_map_of_mem hc
  obtain ⟨⟨k, hmem⟩, _⟩ := candidate_of_mem_arcsForEvent ws m _ false c.arc harc
  have hmachine := machine_of_mem_candidates hb _ false _ k c.arc hmem
  obtain ⟨hfrom, hto⟩ := (endpoints?_eq_some_iff ws m _ hmachine c.origin c.target).mp c.ends_eq
  obtain ⟨i, hi⟩ := (find_eq_some_iff hx .state _ c.origin).mp hfrom
  obtain ⟨j, hj⟩ := (find_eq_some_iff hx .state _ c.target).mp hto
  exact ⟨i, j, hi, hj⟩

omit hx hb in
theorem fromId_of_case (hconcrete : ∀ s ∈ ws.members m .state, (ws.entity s).id ≠ allStateId)
    {f : EventFunction ws m} {c : Case ws} (hc : c ∈ f.cases) :
    (ws.firing c.arc).transition.fromId ≠ some allStateId := by
  have harc : c.arc ∈ (ws.arcsForEvent m (ws.entity f.event).id false).1 := f.arcs_eq ▸ List.mem_map_of_mem hc
  obtain ⟨⟨k, hmem⟩, _⟩ := candidate_of_mem_arcsForEvent ws m _ false c.arc harc
  rcases candidates_cases ws m _ false _ k c.arc hmem with ⟨r, _, hleaves, _, heq⟩ | ⟨_, w, _, s, hs, _, heq, _⟩
  · rw [heq]
    exact fromId_ne_all _ (hleaves.resolve_left (by simp))
  · rw [heq]
    have hstate : s ∈ ws.members m .state := by
      rw [← members_of_bare_eq (bare_renumber ws m)]
      exact (mem_sorted _ _ s).mp hs
    exact fun hall => hconcrete s hstate (Option.some.inj hall)

theorem origin_mem_states (hconcrete : ∀ s ∈ ws.members m .state, (ws.entity s).id ≠ allStateId)
    {f : EventFunction ws m} {c : Case ws} (hc : c ∈ f.cases) : c.origin ∈ ws.members m .state := by
  obtain ⟨i, _, ⟨hfrom, hentry, hkind⟩, _⟩ := entries_of_case hx hb hc
  refine mem_states_of_entries_ne hx hentry hkind ?_
  rintro rfl
  exact fromId_of_case hconcrete hc hfrom

theorem wellFormed (hwarnings : (ws.check m).1.warnings = [])
    (hnone : ∀ s ∈ ws.members m .state, ∀ t ∈ ws.members m .state,
      (ws.entity s).enumId = none → (ws.entity t).enumId ≠ some "None")
    (hconcrete : ∀ s ∈ ws.members m .state, (ws.entity s).id ≠ allStateId) (f : EventFunction ws m) : WellFormed f where
  labels := by
    have hkeys := nodup_keys_arcsForEvent ws m (ws.entity f.event).id false
    rw [← f.arcs_eq, List.map_map, List.Nodup, List.pairwise_map] at hkeys
    refine hkeys.imp_of_mem fun {c d} hc hd hne hlabels => ?_
    obtain ⟨i, _, ⟨hi, hientry, _⟩, _⟩ := entries_of_case hx hb hc
    obtain ⟨j, _, ⟨hj, hjentry, _⟩, _⟩ := entries_of_case hx hb hd
    have hconstants : constant (ws.entity c.origin) = constant (ws.entity d.origin) := by
      simp only [Case.label, String.append_left_inj, String.append_right_inj] at hlabels
      exact hlabels
    have hcstate := origin_mem_states hx hb hconcrete hc
    have hdstate := origin_mem_states hx hb hconcrete hd
    have horigins : c.origin = d.origin := eq_of_constant_eq hwarnings (List.mem_map.mpr ⟨_, hientry, rfl⟩)
      (List.mem_map.mpr ⟨_, hjentry, rfl⟩) (hnone _ hcstate _ hdstate) (hnone _ hdstate _ hcstate) hconstants
    -- One state is registered under one id, so that only the guards are left to tell the keys apart.
    have hids : i = j := id_unique hwarnings (horigins ▸ hientry) hjentry
    refine ⟨horigins, fun hguards => hne ?_⟩
    simp only [Function.comp_apply, arcKey, hi, hj, hids, hguards]
  origins := fun c hc => constant_mem_declared (origin_mem_states hx hb hconcrete hc)
  targets := fun c hc hall => by
    obtain ⟨_, j, _, hto, hentry, hkind⟩ := entries_of_case hx hb hc
    refine constant_mem_declared (mem_states_of_entries_ne hx hentry hkind ?_)
    rintro rfl
    exact hall hto

end

/-- If a check warns about nothing, the functions of a switch table are well-formed: two labels of a function are equal
only if one state is left on different guards, and the constants in the labels and answers are declared, unless an arc
ends in `#ALL`. A check does not see that a constant which is missing is written like `None`. -/
theorem render_wellFormed (ws : Workspace) (m : MachineRef) (text : String) (hreach : ws.Reachable)
    (hm : m.index < ws.machines.length) (hb : ws.ArcsBelong m) (hwarnings : (ws.check m).1.warnings = [])
    (hnone : ∀ s ∈ ws.members m .state, ∀ t ∈ ws.members m .state,
      (ws.entity s).enumId = none → (ws.entity t).enumId ≠ some "None")
    (hconcrete : ∀ s ∈ ws.members m .state, (ws.entity s).id ≠ allStateId) (hrender : (render ws m).2 = .ok text) :
    ∃ functions : List (EventFunction ws m), functions.map EventFunction.event = ws.members m .event ∧
      text = joinLines (opening ws m ++ functions.flatMap EventFunction.lines ++ closing ws m) ∧
      (∃ before numbers, numbers.length = (declared ws m).length ∧
        opening ws m = before ++ declaration (declared ws m) numbers) ∧
      ∀ f ∈ functions, WellFormed f := by
  obtain ⟨functions, hevents, htext⟩ := exists_functions hrender
  exact ⟨functions, hevents, htext, opening_eq ws m, fun f _ =>
    wellFormed (hreach.consistent.machine m hm) hb hwarnings hnone hconcrete f⟩

/-- A machine with an arc from one of two states, and one that leaves the other for it. -/
def latch : Workspace := filled "m"
  [{ id := "shut", detail := .state [] [] none }, { id := "open", detail := .state [] [] none },
   { id := "push", detail := .event none },
   { id := "w", detail := .arc { fromId := some "#ALL", toId := some "shut", eventId := some "push" } },
   { id := "a", detail := .arc { fromId := some "shut", toId := some "open", eventId := some "push" } }]

theorem render_wellFormed_latch :
    (latch.check ⟨0⟩).1.warnings = [] ∧ latch.ArcsBelong ⟨0⟩ ∧
      (∀ s ∈ latch.members ⟨0⟩ .state, ∀ t ∈ latch.members ⟨0⟩ .state,
        (latch.entity s).enumId = none → (latch.entity t).enumId ≠ some "None") ∧
      (∀ s ∈ latch.members ⟨0⟩ .state, (latch.entity s).id ≠ allStateId) ∧
      ∃ functions : List (EventFunction latch ⟨0⟩), functions.map EventFunction.event = [⟨3⟩] ∧
        (render latch ⟨0⟩).2 =
          .ok (joinLines (opening latch ⟨0⟩ ++ functions.flatMap EventFunction.lines ++ closing latch ⟨0⟩)) ∧
        ∀ f ∈ functions, WellFormed f := by
  have hwarnings : (latch.check ⟨0⟩).1.warnings = [] := by decide +kernel
  have hb : latch.ArcsBelong ⟨0⟩ := by decide +kernel
  have hnone : ∀ s ∈ latch.members ⟨0⟩ .state, ∀ t ∈ latch.members ⟨0⟩ .state,
      (latch.entity s).enumId = none → (latch.entity t).enumId ≠ some "None" := by decide +kernel
  have hconcrete : ∀ s ∈ latch.members ⟨0⟩ .state, (latch.entity s).id ≠ allStateId := by decide +kernel
  obtain ⟨text, hrender⟩ := Option.isSome_iff_exists.mp
    (by decide +kernel : (render latch ⟨0⟩).2.toOption.isSome = true)
  obtain ⟨functions, hevents, htext, _, hall⟩ := render_wellFormed latch ⟨0⟩ text (reachable_filled _ _)
    (by decide +kernel) hb hwarnings hnone hconcrete (ok_of_toOption hrender)
  refine ⟨hwarnings, hb, hnone, hconcrete, functions, hevents.trans (by decide +kernel), ?_, hall⟩
  rw [ok_of_toOption hrender, htext]

/-- A machine with two guarded arcs from one state, and one from another to every state. -/
def turnstile : Workspace := filled "m"
  [{ id := "closed", detail := .state [] [] none }, { id := "open", detail := .state [] [] none },
   { id := "push", detail := .event none },
   { id := "a", detail := .arc
      { fromId := some "closed", toId := some "open", eventId := some "push", guard := some "unlocked" } },
   { id := "b", detail := .arc
      { fromId := some "closed", toId := some "closed", eventId := some "push", guard := some "locked" } },
   { id := "c", detail := .arc { fromId := some "open", toId := some "#ALL", eventId := some "push" } }]

/-- Guards keep two arcs of a state apart, but both have the label of the state. -/
theorem labels_not_nodup_turnstile :
    ¬ ∀ (ws : Workspace) (m : MachineRef) (text : String), ws.Reachable → m.index < ws.machines.length →
      ws.ArcsBelong m → (ws.check m).1.isValid = true → (ws.check m).1.warnings = [] → (render ws m).2 = .ok text →
      ∃ functions : List (EventFunction ws m), functions.map EventFunction.event = ws.members m .event ∧
        text = joinLines (opening ws m ++ functions.flatMap EventFunction.lines ++ closing ws m) ∧
        ∀ f ∈ functions, (f.cases.map Case.label).Nodup ∧ ∀ c ∈ f.cases,
          constant (ws.entity c.origin) ∈ declared ws m ∧ constant (ws.entity c.target) ∈ declared ws m := by
  intro h
  obtain ⟨text, hrender⟩ := Option.isSome_iff_exists.mp
    (by decide +kernel : (render turnstile ⟨0⟩).2.toOption.isSome = true)
  obtain ⟨functions, hevents, _, hall⟩ := h turnstile ⟨0⟩ text (reachable_filled _ _) (by decide +kernel)
    (by decide +kernel) (by decide +kernel) (by decide +kernel) (ok_of_toOption hrender)
  have hpush : turnstile.members ⟨0⟩ .event = [⟨3⟩] := by decide +kernel
  obtain ⟨f, rest, rfl, hf, _⟩ := List.map_eq_cons_iff.mp (hevents.trans hpush)
  have hlabels := (hall f List.mem_cons_self).1.map (Option.some_injective String)
  rw [List.map_map, f.labels_eq, hf] at hlabels
  exact absurd hlabels (by decide +kernel)

/-- The last arc goes on to a state that no line declares. -/
example : (functionOf turnstile ⟨0⟩ ⟨3⟩).toOption.map (fun lines => lines.drop 6) = some
      ["    case ST_OPEN:", "        return ST__ALL;", "    default:", "        return s;", "    \x7d", "\x7d", ""] ∧
    declared turnstile ⟨0⟩ = ["ST_CLOSED", "ST_OPEN"] := by decide +kernel

end StateMachine.SwitchTable
