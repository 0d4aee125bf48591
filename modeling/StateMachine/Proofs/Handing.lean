import StateMachine.Proofs.Extracted
import StateMachine.Proofs.Placing

/-!
# What an extraction changes

Whether it succeeds or fails, an extraction numbers states, adds warnings at the end, and hands entities over to a
machine that is new. All else that was there before stays as it was, and the arcs are left alone.
-/

namespace StateMachine

theorem Entity.eq_of_detached_eq {e e' : Entity} (h : e'.detached = e.detached) (hmachine : e'.machine = e.machine) :
    e' = e := by
  cases e
  cases e'
  simp_all [Entity.detached]

namespace Workspace

/-! ## Before the new machine is made -/

theorem renumbered_reportIfEmpty (ws : Workspace) (m : MachineRef) (empty : Bool) (d : Diagnostic) :
    Renumbered ws (ws.reportIfEmpty m empty d) m := by
  unfold reportIfEmpty
  split
  · exact renumbered_report ws m d
  · exact .refl

theorem renumbered_surveyed (ws : Workspace) (m : MachineRef) (specifiers : List String)
    (events touched : List EntityRef) : Renumbered ws (ws.surveyed m specifiers events touched) m :=
  (((renumbered_reportIfEmpty ws m _ _).trans (renumbered_collectArcs _ m events)).trans
    (renumbered_reportIfEmpty _ m _ _)).trans (renumbered_reportIfEmpty _ m _ _)

/-! ## What is handed over -/

/-- States may have got other numbers, warnings about the machine were added, and a machine that is new has taken some
entities over, but no arcs. Nothing else has changed. -/
structure Handed (ws ws' : Workspace) (m : MachineRef) (handed : List EntityRef) : Prop where
  machine : ∀ n, n.index < ws.machines.length → (ws'.machine n).unwarned = (ws.machine n).unwarned
  warnings : ∃ reports, (ws'.machine m).warnings = (ws.machine m).warnings ++ reports
  content : ∀ r, r.index < ws.entities.length →
    (ws'.entity r).unnumbered.detached = (ws.entity r).unnumbered.detached
  owner : ∀ r, r.index < ws.entities.length →
    (ws'.entity r).machine = if r ∈ handed then some ws.nextMachine else (ws.entity r).machine
  kinds : ∀ r ∈ handed, ws.kindOf r ≠ .arc
  grown : ws.entities.length ≤ ws'.entities.length

theorem Renumbered.handed {ws ws' : Workspace} {m : MachineRef} (h : Renumbered ws ws' m) : Handed ws ws' m [] where
  machine := fun n _ => unwarned_of_bare_eq h.bare_eq n
  warnings := h.warnings_eq
  content := fun r _ => congrArg Entity.detached (unnumbered_of_bare_eq h.bare_eq r)
  owner := fun r _ => by
    rw [if_neg List.not_mem_nil, ← Entity.machine_unnumbered, unnumbered_of_bare_eq h.bare_eq,
      Entity.machine_unnumbered]
  kinds := fun r hr => absurd hr List.not_mem_nil
  grown := Nat.le_of_eq (length_entities_of_bare_eq h.bare_eq).symm

section
variable {ws ready : Workspace} {m : MachineRef} {events states : List EntityRef} {arcs : List FiringArc}
  (p : Parts ready m events states arcs)
include p

/-- All that was there before and is in the batch is shared. -/
theorem filter_old_batch : (ready.batch m events states arcs).filter (fun r => r.index < ready.entities.length) =
    ready.shared m events states := by
  have hold : ∀ refs : List EntityRef,
      (∀ r ∈ refs, r ∈ events ++ states ∨ r ∈ ready.members m .bundle ++ ready.members m .action) →
      refs.filter (fun r => r.index < ready.entities.length) = refs := fun refs hrefs =>
    List.filter_eq_self.mpr fun r hr => decide_eq_true (p.old r (hrefs r hr))
  have hnew : (ready.copied m arcs).filter (fun r => r.index < ready.entities.length) = [] := by
    rw [List.filter_eq_nil_iff]
    intro r hr
    have := (copied_fresh ready m arcs r hr).1
    simp only [decide_eq_true_eq]
    omega
  rw [batch_eq ready m arcs events states p.inRange, List.filter_append, List.filter_append, hnew, List.append_nil,
    hold _ fun r hr => Or.inl hr, hold _ fun r hr => Or.inr hr, shared]

theorem Parts.kindOf_shared (r : EntityRef) (hr : r ∈ ready.shared m events states) : ready.kindOf r ≠ .arc := by
  rw [shared, List.mem_append, List.mem_append, List.mem_append] at hr
  rcases hr with (hr | hr) | (hr | hr)
  · rw [(known_of_mem_members p.consistent .event r (p.events r hr)).2]
    decide
  · rw [p.states r hr]
    decide
  · rw [(known_of_mem_members p.consistent .bundle r hr).2]
    decide
  · rw [(known_of_mem_members p.consistent .action r hr).2]
    decide

/-- The new machine takes its part of the batch over, copies of arcs included. -/
theorem handed_takingAll (h : Renumbered ws ready m) (before after : List EntityRef)
    (hbatch : ready.batch m events states arcs = before ++ after) :
    Handed ws ((ready.stocked m arcs).takingAll ready.nextMachine before) m
      (before.filter fun r => r.index < ready.entities.length) := by
  have hentities := length_entities_of_bare_eq h.bare_eq
  have hmachines := length_machines_of_bare_eq h.bare_eq
  have hmachine : ∀ n : MachineRef, n.index < ready.machines.length →
      ((ready.stocked m arcs).takingAll ready.nextMachine before).machine n = ready.machine n := by
    intro n hn
    have hne : n ≠ ready.nextMachine := fun heq => Nat.lt_irrefl _ (heq ▸ hn)
    rw [machine_takingAll_ne _ _ _ n hne, machine_stocked_old ready m arcs n hn]
  refine ⟨?_, ?_, ?_, ?_, ?_, ?_⟩
  · intro n hn
    rw [hmachine n (hmachines ▸ hn), unwarned_of_bare_eq h.bare_eq]
  · rw [hmachine m p.inRange]
    exact h.warnings_eq
  · intro r hr
    rw [detached_takingAll ready m _ arcs before r (hentities ▸ hr), unnumbered_of_bare_eq h.bare_eq]
  · intro r hr
    have hold : (ready.entity r).machine = (ws.entity r).machine := by
      rw [← Entity.machine_unnumbered, unnumbered_of_bare_eq h.bare_eq, Entity.machine_unnumbered]
    have hknown : r.index < (ready.stocked m arcs).entities.length :=
      Nat.lt_trans (hentities ▸ hr) (length_entities_stocked ready m arcs)
    by_cases hmem : r ∈ before
    · rw [entity_takingAll_of_mem _ _ _ r hmem hknown,
        if_pos (List.mem_filter.mpr ⟨hmem, decide_eq_true (hentities ▸ hr)⟩), nextMachine, nextMachine, hmachines]
    · rw [entity_takingAll_of_not_mem _ _ _ r hmem, entity_stocked_old ready m arcs r (hentities ▸ hr), hold,
        if_neg fun hin => hmem (List.mem_filter.mp hin).1]
  · intro r hr
    have hshared : r ∈ ready.shared m events states := by
      rw [← filter_old_batch p, hbatch, List.filter_append]
      exact List.mem_append_left _ hr
    rw [← kindOf_of_bare_eq h.bare_eq]
    exact p.kindOf_shared r hshared
  · rw [length_entities_takingAll, ← hentities]
    exact Nat.le_of_lt (length_entities_stocked ready m arcs)

end

theorem shared_of_bare_eq {ws ws' : Workspace} (h : ws'.bare = ws.bare) (m : MachineRef)
    (events states : List EntityRef) : ws'.shared m events states = ws.shared m events states := by
  rw [shared, members_of_bare_eq h, members_of_bare_eq h, shared]

namespace Handed

variable {ws ws' : Workspace} {m : MachineRef} {handed : List EntityRef} (h : Handed ws ws' m handed)
include h

/-- The journal does not matter. -/
theorem withJournal (journal : Journal) : Handed ws { ws' with journal := journal } m handed :=
  ⟨h.machine, h.warnings, h.content, h.owner, h.kinds, h.grown⟩

/-- What an entity is besides its number and its machine stays. -/
theorem same {β : Type} (g : Entity → β) (hg : ∀ e, g e.unnumbered.detached = g e) (r : EntityRef)
    (hr : r.index < ws.entities.length) : g (ws'.entity r) = g (ws.entity r) := by
  rw [← hg, h.content r hr, hg]

theorem kindOf_eq (r : EntityRef) (hr : r.index < ws.entities.length) : ws'.kindOf r = ws.kindOf r :=
  h.same Entity.kind Entity.kind_unnumbered r hr

theorem machine_of_not_mem (r : EntityRef) (hr : r.index < ws.entities.length) (hnot : r ∉ handed) :
    (ws'.entity r).machine = (ws.entity r).machine := by
  rw [h.owner r hr, if_neg hnot]

/-- An arc has no number and is not handed over. -/
theorem arc_eq (r : EntityRef) (hr : r.index < ws.entities.length) (hkind : ws.kindOf r = .arc) :
    ws'.entity r = ws.entity r := by
  have hcontent := h.content r hr
  rw [Entity.unnumbered_of_arc (ws.entity r) hkind, Entity.unnumbered_of_arc (ws'.entity r)] at hcontent
  · exact Entity.eq_of_detached_eq hcontent (h.machine_of_not_mem r hr fun hmem => h.kinds r hmem hkind)
  · rw [← hkind, ← h.kindOf_eq r hr, kindOf]

end Handed

/-! ## After an extraction -/

theorem known_of_mem_registered {ws : Workspace} {m : MachineRef}
    (hx : (ws.machine m).Consistent ws.kindOf ws.entities.length) (r : EntityRef) (h : r ∈ ws.registered m) :
    r.index < ws.entities.length := by
  obtain ⟨entry, he, rfl⟩ := List.mem_map.mp h
  exact hx.known entry he

/-- However it ends, some entities were handed over. -/
theorem handed_of_ending {ws ready : Workspace} {m : MachineRef} {events states : List EntityRef}
    {arcs : List FiringArc} (p : Parts ready m events states arcs) (h : Renumbered ws ready m)
    {result : Workspace × Except Fault MachineRef} (hending : Ending ready m events states arcs result) :
    ∃ handed, Handed ws result.1 m handed := by
  cases hending with
  | refused => exact ⟨[], h.handed⟩
  | stuck _ before r after _ _ hbatch => exact ⟨_, handed_takingAll p h before (r :: after) hbatch⟩
  | made _ _ journal => exact ⟨_, (handed_takingAll p h _ [] (List.append_nil _).symm).withJournal journal⟩

section
variable {ws : Workspace} {m : MachineRef} (specifiers : List String) (hc : ws.Consistent)
  (hm : m.index < ws.machines.length)
include hc hm

theorem exists_handed_extract : ∃ handed, Handed ws (ws.extract m specifiers).1 m handed := by
  cases hselected : ws.matchingEvents m specifiers with
  | error fault =>
    rw [extract, hselected]
    exact ⟨[], Renumbered.refl.handed⟩
  | ok events =>
    obtain ⟨touched, ready, _, rfl, p, hending⟩ := ending_extract ws m specifiers events hc hm hselected
    exact handed_of_ending p (renumbered_surveyed ws m specifiers events touched) hending

/-- A new machine takes all that it shares. -/
theorem handed_of_extract {ws' : Workspace} {clone : MachineRef} {events : List EntityRef}
    (hselected : ws.matchingEvents m specifiers = .ok events) (hextract : ws.extract m specifiers = (ws', .ok clone)) :
    clone = ws.nextMachine ∧ Handed ws ws' m (ws.shared m events (ws'.members clone .state)) ∧
      ∀ r ∈ ws'.members clone .arc, ws.entities.length ≤ r.index := by
  obtain ⟨touched, ready, _, hready, p, hending⟩ := ending_extract ws m specifiers events hc hm hselected
  have hrenumbered := renumbered_surveyed ws m specifiers events touched
  rw [← hready] at hrenumbered
  rw [hextract] at hending
  have hbare := hrenumbered.bare_eq
  cases hending with
  | made _ _ journal =>
    have hstates : (ready.cloned m events (ready.byNumber touched) (ws.collectArcs m events).1).members
        ready.nextMachine .state = ready.byNumber touched := by
      simpa using members_cloned p .state
    have hshared : ready.shared m events (ready.byNumber touched) =
        ws.shared m events ((ready.cloned m events (ready.byNumber touched) (ws.collectArcs m events).1).members
          ready.nextMachine .state) := by
      rw [hstates, shared_of_bare_eq hbare]
    have hall := handed_takingAll p hrenumbered _ [] (List.append_nil _).symm
    rw [filter_old_batch p, hshared] at hall
    have harcs := members_cloned_arc p
    refine ⟨?_, hall.withJournal journal, ?_⟩
    · rw [nextMachine, nextMachine, length_machines_of_bare_eq hbare]
    · intro r hr
      have hcopy := copied_fresh ready m _ r (harcs ▸ hr)
      rw [length_entities_of_bare_eq hbare] at hcopy
      exact Nat.le_of_lt hcopy.1

end

theorem mem_shared_iff (ws : Workspace) (m : MachineRef) (events states : List EntityRef) (r : EntityRef) :
    r ∈ ws.shared m events states ↔
      r ∈ events ∨ r ∈ states ∨ r ∈ ws.members m .bundle ∨ r ∈ ws.members m .action := by
  rw [shared, List.mem_append, List.mem_append, List.mem_append, or_assoc]

/-- Whether an extraction succeeds or fails, the old machine stays as it was but for warnings at the end, its entities
but for their numbers and owners, and its arcs as a whole. A new machine owns the selected events, its states, and all
classes and actions of the old one; its arcs are new. -/
theorem extract_frame (ws ws' : Workspace) (m : MachineRef) (specifiers : List String)
    (result : Except Fault MachineRef) (hreach : ws.Reachable) (hm : m.index < ws.machines.length)
    (hextract : ws.extract m specifiers = (ws', result)) :
    (ws'.machine m).unwarned = (ws.machine m).unwarned ∧
    (∃ reports, (ws'.machine m).warnings = (ws.machine m).warnings ++ reports) ∧
    (∀ r ∈ ws.registered m, (ws'.entity r).unnumbered.detached = (ws.entity r).unnumbered.detached) ∧
    (∀ r ∈ ws.members m .arc, ws'.entity r = ws.entity r) ∧
    ∀ clone, result = .ok clone → ∃ events, ws.matchingEvents m specifiers = .ok events ∧
      (∀ r ∈ ws.registered m, (ws'.entity r).machine =
        if r ∈ events ∨ r ∈ ws'.members clone .state ∨ r ∈ ws.members m .bundle ∨ r ∈ ws.members m .action
        then some clone else (ws.entity r).machine) ∧
      (ws.Placed → ∀ r ∈ ws.registered m, (ws'.entity r).machine = some clone ↔
        r ∈ events ∨ r ∈ ws'.members clone .state ∨ r ∈ ws.members m .bundle ∨ r ∈ ws.members m .action) ∧
      ∀ r ∈ ws'.members clone .arc, ws.entities.length ≤ r.index ∧ (ws'.entity r).machine = some clone := by
  have hc := hreach.consistent
  have hknown := known_of_mem_registered (hc.machine m hm)
  obtain ⟨handed, h⟩ := exists_handed_extract specifiers hc hm
  rw [hextract] at h
  refine ⟨h.machine m hm, h.warnings, fun r hr => h.content r (hknown r hr), ?_, ?_⟩
  · intro r hr
    obtain ⟨hlt, hkind⟩ := known_of_mem_members (hc.machine m hm) .arc r hr
    exact h.arc_eq r hlt hkind
  · rintro clone rfl
    obtain ⟨events, hselected⟩ := selected_of_extract hextract
    obtain ⟨hclone, hhanded, hfresh⟩ := handed_of_extract specifiers hc hm hselected hextract
    obtain ⟨_, _, hextracted⟩ := extracted_of_extract hc hm hselected hextract rfl
    have howner : ∀ r ∈ ws.registered m, (ws'.entity r).machine =
        if r ∈ events ∨ r ∈ ws'.members clone .state ∨ r ∈ ws.members m .bundle ∨ r ∈ ws.members m .action
        then some clone else (ws.entity r).machine := by
      intro r hr
      rw [hhanded.owner r (hknown r hr), hclone]
      exact if_congr (mem_shared_iff ws m events _ r) rfl rfl
    refine ⟨events, hselected, howner, ?_, fun r hr => ⟨hfresh r hr, hextracted.belong r hr⟩⟩
    intro hplaced r hr
    rw [howner r hr]
    split
    case isTrue hin => exact iff_of_true rfl hin
    case isFalse hnot =>
      -- The new machine was not there before, so nothing belonged to it.
      refine iff_of_false (fun hold => ?_) hnot
      have hlt := (placed_iff ws).mp hplaced r clone hold
      rw [hclone] at hlt
      exact Nat.lt_irrefl _ hlt

/-- A machine with entities of all kinds, and a state that no arc touches. -/
def lamp : Workspace := filled "m"
  [{ id := "off", detail := .state [] [] none }, { id := "on", detail := .state ["click"] [] none },
   { id := "broken", detail := .state [] [] none }, { id := "press", detail := .event none },
   { id := "click", detail := .action none }, { id := "loud", detail := .bundle },
   { id := "a", classIds := ["loud"],
     detail := .arc { fromId := some "off", toId := some "on", eventId := some "press" } }]

theorem extract_frame_lamp :
    let ws' := (lamp.extract ⟨0⟩ []).1
    lamp.extract ⟨0⟩ [] = (ws', .ok ⟨1⟩) ∧ lamp.Placed ∧ ∃ events, lamp.matchingEvents ⟨0⟩ [] = .ok events ∧
      ∀ r ∈ lamp.registered ⟨0⟩, (ws'.entity r).machine = some ⟨1⟩ ↔ r ∈ events ∨ r ∈ ws'.members ⟨1⟩ .state ∨
        r ∈ lamp.members ⟨0⟩ .bundle ∨ r ∈ lamp.members ⟨0⟩ .action := by
  have hextract := extract_of_toOption lamp ⟨0⟩ ⟨1⟩ [] (by decide +kernel)
  have hplaced : lamp.Placed := by decide +kernel
  obtain ⟨_, _, _, _, hmade⟩ := extract_frame lamp _ ⟨0⟩ [] _ (reachable_filled _ _) (by decide +kernel) hextract
  obtain ⟨events, hselected, _, howned, _⟩ := hmade ⟨1⟩ rfl
  exact ⟨hextract, hplaced, events, hselected, howned hplaced⟩

end Workspace

end StateMachine
