import StateMachine.Proofs.Mirroring
import StateMachine.Proofs.Reporting

/-!
# Constants that entities share

Each constant of several entities is reported once, with all who have it. It does not make a machine invalid: this is up
to its errors, and these do not depend on constants. Every time that a machine is asserted to be valid its warnings are
recorded again, however this ends.
-/

namespace StateMachine

/-- What comes first in a list also comes first without the repetitions. -/
theorem pairwise_idxOf_eraseDups {α : Type} [BEq α] [LawfulBEq α] (xs : List α) :
    xs.eraseDups.Pairwise fun x y => xs.idxOf x < xs.idxOf y := by
  induction xs using List.reverseRecOn with
  | nil => exact .nil
  | append_singleton xs x ih =>
    have hold : xs.eraseDups.Pairwise fun y z => (xs ++ [x]).idxOf y < (xs ++ [x]).idxOf z := by
      refine ih.imp_of_mem fun hy hz hlt => ?_
      rw [List.mem_eraseDups] at hy hz
      rwa [List.idxOf_append_of_mem hy, List.idxOf_append_of_mem hz]
    rw [List.eraseDups_append]
    by_cases hx : x ∈ xs
    · simpa [List.removeAll, hx] using hold
    · have hlast : ([x].removeAll xs).eraseDups = [x] := by simp [List.removeAll, hx, List.eraseDups_cons]
      rw [hlast, List.pairwise_append]
      refine ⟨hold, List.pairwise_singleton _ _, fun y hy z hz => ?_⟩
      rw [List.mem_eraseDups] at hy
      obtain rfl := List.mem_singleton.mp hz
      rw [List.idxOf_append_of_mem hy, List.idxOf_append_of_notMem hx]
      exact Nat.lt_add_right _ (List.idxOf_lt_length_of_mem hy)

namespace Workspace

/-- The constants of everything registered in a machine. -/
def constants (ws : Workspace) (m : MachineRef) : List (Option String) :=
  (ws.registered m).map fun r => (ws.entity r).enumId

/-- Everything registered in a machine that has this constant. -/
def holders (ws : Workspace) (m : MachineRef) (enumId : Option String) : List EntityRef :=
  (ws.registered m).filter fun r => (ws.entity r).enumId = enumId

/-- The warning names a constant and all who have it. Its context has the constant, and their ids in the order of
registration. -/
structure Warns (ws : Workspace) (m : MachineRef) (enumId : Option String) (d : Diagnostic) : Prop where
  level : d.level = Diagnostic.warningLevel
  what :
    let name := enumId.getD "None"
    let labels := " ".intercalate ((ws.holders m enumId).map fun r => (ws.entity r).label)
    d.what = s!"multiple objects with the enum_id '{name}': {labels}"
  context : d.context = [("enum_id", enumId.elim .null .text),
    ("ids", .list ((ws.holders m enumId).map fun r => .text (ws.entity r).id))]

section
variable (ws : Workspace) (m : MachineRef)

theorem sharedConstants_eq : ws.sharedConstants m =
    ((ws.constants m).eraseDups.filter fun k => 2 ≤ (ws.holders m k).length).map fun k => (k, ws.holders m k) := by
  rw [sharedConstants, Assoc.groupBy_eq, List.filter_map]
  simp only [beq_eq_decide]
  rfl

theorem mem_constants_of_holders (enumId : Option String) (h : 2 ≤ (ws.holders m enumId).length) :
    enumId ∈ ws.constants m := by
  obtain ⟨r, hr⟩ := List.exists_mem_of_length_pos (Nat.lt_of_lt_of_le Nat.two_pos h)
  obtain ⟨hr, hid⟩ := List.mem_filter.mp hr
  exact List.mem_map.mpr ⟨r, hr, of_decide_eq_true hid⟩

theorem disjoint_holders (enumId other : Option String) (hne : enumId ≠ other) :
    (ws.holders m enumId).Disjoint (ws.holders m other) := by
  intro r hr hr'
  exact hne ((of_decide_eq_true (List.mem_filter.mp hr).2).symm.trans (of_decide_eq_true (List.mem_filter.mp hr').2))

theorem warns_sharedConstantWarning (enumId : Option String) :
    ws.Warns m enumId (ws.sharedConstantWarning enumId (ws.holders m enumId)) := by
  refine ⟨rfl, rfl, ?_⟩
  have hids : Value.ofTexts ((ws.holders m enumId).map fun r => (ws.entity r).id) =
      .list ((ws.holders m enumId).map fun r => .text (ws.entity r).id) := by
    rw [Value.ofTexts, List.map_map]
    rfl
  rw [sharedConstantWarning, Diagnostic.warning, hids]
  cases enumId <;> rfl

/-- The warnings of a check: one for each constant that is shared, in the order in which the constants come first. -/
theorem warnings_check : ∃ shared : List (Option String),
    List.Forall₂ (ws.Warns m) shared (ws.check m).1.warnings ∧
    (∀ k, k ∈ shared ↔ 2 ≤ (ws.holders m k).length) ∧
    shared.Pairwise fun k l =>
      (ws.constants m).idxOf k < (ws.constants m).idxOf l ∧ (ws.holders m k).Disjoint (ws.holders m l) := by
  refine ⟨(ws.constants m).eraseDups.filter fun k => 2 ≤ (ws.holders m k).length, ?_, fun k => ?_, ?_⟩
  · rw [check_eq_examine, examine, sharedConstants_eq, List.map_map]
    exact List.forall₂_map_right_iff.mpr (List.forall₂_same.mpr fun k _ => ws.warns_sharedConstantWarning m k)
  · rw [List.mem_filter, List.mem_eraseDups, decide_eq_true_iff]
    exact ⟨And.right, fun h => ⟨ws.mem_constants_of_holders m k h, h⟩⟩
  · refine ((pairwise_idxOf_eraseDups _).filter _).imp fun {k l} hlt => ⟨hlt, ws.disjoint_holders m k l ?_⟩
    rintro rfl
    exact lt_irrefl _ hlt

/-! ## Constants and errors -/

/-- The workspace with another constant for one entity. -/
def recode (r : EntityRef) (enumId : Option String) : Workspace :=
  ws.modifyEntity r fun e => { e with enumId }

theorem errors_recode (r : EntityRef) (enumId : Option String) : (ws.recode r enumId).errors m = ws.errors m := by
  have hkeeps : ∀ {β : Type} (g : Entity → β), (∀ e, g { e with enumId } = g e) →
      ∀ s, g ((ws.recode r enumId).entity s) = g (ws.entity s) := fun g hg s =>
    entity_modifyEntity_congr g ws r s _ hg
  have hkind : (ws.recode r enumId).kindOf = ws.kindOf := funext fun s => hkeeps Entity.kind (fun _ => rfl) s
  have hreference : ∀ s role, (ws.recode r enumId).referenceError? m ((ws.recode r enumId).entity s) role =
      ws.referenceError? m (ws.entity s) role := fun s role => by
    refine Eq.trans ?_ (hkeeps (fun e => ws.referenceError? m e role) (fun _ => rfl) s)
    simp only [referenceError?, hkind]
    rfl
  have hexit : (ws.recode r enumId).exitKey? m = ws.exitKey? m := funext fun s => by
    simp only [exitKey?, hreference, hkeeps Entity.transition fun _ => rfl]
  have hreferences : (ws.recode r enumId).referenceErrors m = ws.referenceErrors m := funext fun s => by
    simp only [referenceErrors, hreference]
  have hcollisions : (ws.recode r enumId).collisions m = ws.collisions m := by
    unfold collisions
    rw [hexit]
    rfl
  simp only [errors, hreferences, hcollisions, collisionError, hkeeps Entity.id fun _ => rfl]
  rfl

/-! ## Asserting that a machine is valid -/

theorem check_assertValid : ((ws.assertValid m).1.check m).1 = (ws.check m).1 := by
  rw [check_eq_examine, check_eq_examine, ← examine_bare, bare_assertValid, examine_bare]

/-- The assertion fails exactly if there are errors, and with all of them. -/
theorem snd_assertValid : (ws.assertValid m).2 =
    if (ws.check m).1.isValid then .ok ()
    else .error (.invalidMachine (ws.machine m).head.id (ws.check m).1.errors) := by
  have hbare : ((ws.check m).2.reportAll m (ws.check m).1.warnings).bare = ws.bare := by
    rw [bare_reportAll, bare_check]
  rw [assertValid, ← head_of_bare_eq hbare]
  dsimp only
  split <;> rfl

theorem warnings_assertValid (hm : m.index < ws.machines.length) :
    ((ws.assertValid m).1.machine m).warnings = (ws.machine m).warnings ++ (ws.check m).1.warnings := by
  have hm' : m.index < (ws.check m).2.machines.length := by
    rwa [length_machines_of_bare_eq (bare_check ws m)]
  rw [fst_assertValid, warnings_reportAll _ m hm', check, machine_renumber]

/-- Asserting again and again records the same warnings again and again. -/
theorem warnings_iterate_assertValid (hm : m.index < ws.machines.length) (n : Nat) :
    (((fun ws => (ws.assertValid m).1)^[n] ws).machine m).warnings =
      (ws.machine m).warnings ++ (List.replicate n (ws.check m).1.warnings).flatten := by
  induction n generalizing ws with
  | zero => simp
  | succ n ih =>
    have hm' : m.index < (ws.assertValid m).1.machines.length := by
      rwa [length_machines_of_bare_eq (bare_assertValid ws m)]
    rw [Function.iterate_succ_apply, ih _ hm', warnings_assertValid ws m hm, check_assertValid, List.replicate_succ,
      List.flatten_cons, List.append_assoc]

end

/-- Each constant that several registered entities have, `#ALL` among them, is reported once with a list of all of
these, in the order of registration. Asserting records just these warnings, each time anew; it fails if and only if there
are errors, and with all of them, whatever constants the entities have. -/
theorem shared_constants_reported (ws : Workspace) (m : MachineRef) (hreach : ws.Reachable)
    (hm : m.index < ws.machines.length) :
    (∃ added, ws.registered m = (ws.machine m).allState :: added) ∧
    (∃ shared : List (Option String),
      List.Forall₂ (ws.Warns m) shared (ws.check m).1.warnings ∧
      (∀ k, k ∈ shared ↔ 2 ≤ (ws.holders m k).length) ∧
      shared.Pairwise fun k l =>
        (ws.constants m).idxOf k < (ws.constants m).idxOf l ∧ (ws.holders m k).Disjoint (ws.holders m l)) ∧
    (ws.Named m → ∀ k, (ws.holders m k).Nodup) ∧
    (∀ n, (((fun ws => (ws.assertValid m).1)^[n] ws).machine m).warnings =
      (ws.machine m).warnings ++ (List.replicate n (ws.check m).1.warnings).flatten) ∧
    ((ws.check m).1.errors = [] → (ws.assertValid m).2 = .ok ()) ∧
    ((ws.check m).1.errors ≠ [] → ∃ fault, (ws.assertValid m).2 = .error fault ∧
      fault.problem.category = .invalidMachine (ws.check m).1.errors) ∧
    ∀ r enumId, ((ws.recode r enumId).check m).1.errors = (ws.check m).1.errors := by
  have hx := hreach.consistent.machine m hm
  have hvalid : (ws.check m).1.isValid = true ↔ (ws.check m).1.errors = [] := List.isEmpty_iff
  refine ⟨?_, ws.warnings_check m, fun hn k => ?_, ws.warnings_iterate_assertValid m hm, fun hnone => ?_,
    fun hsome => ?_, fun r enumId => ?_⟩
  · rw [registered, Registry.entities, hx.entries_eq]
    exact ⟨_, rfl⟩
  · exact (nodup_refs hx hn).filter _
  · rw [snd_assertValid, if_pos (hvalid.mpr hnone)]
  · rw [snd_assertValid, if_neg (mt hvalid.mp hsome)]
    exact ⟨_, rfl, rfl⟩
  · rw [check_eq_examine, check_eq_examine]
    exact errors_recode ws m r enumId

/-- Two constants that are shared, one with `#ALL`, and an arc that goes nowhere. -/
def lookalikes : Workspace := filled "m"
  [{ id := "door-open", detail := .state [] [] none }, { id := "door_open", detail := .event none },
   { id := "all", enumId := some "_ALL", detail := .bundle },
   { id := "a", detail := .arc
      { fromId := some "door-open", toId := some "nowhere", eventId := some "door_open" } }]

theorem shared_constants_reported_lookalikes :
    (∃ shared : List (Option String), List.Forall₂ (lookalikes.Warns ⟨0⟩) shared (lookalikes.check ⟨0⟩).1.warnings ∧
      some "_ALL" ∈ shared ∧ some "DOOR_OPEN" ∈ shared) ∧
    (lookalikes.holders ⟨0⟩ (some "_ALL")).Nodup ∧
    (((fun ws => (ws.assertValid ⟨0⟩).1)^[2] lookalikes).machine ⟨0⟩).warnings =
      (lookalikes.machine ⟨0⟩).warnings ++ (List.replicate 2 (lookalikes.check ⟨0⟩).1.warnings).flatten ∧
    ∃ fault, (lookalikes.assertValid ⟨0⟩).2 = .error fault ∧
      fault.problem.category = .invalidMachine (lookalikes.check ⟨0⟩).1.errors := by
  obtain ⟨_, ⟨shared, hwarnings, hshared, _⟩, hnodup, hasserted, _, hfails, _⟩ :=
    shared_constants_reported lookalikes ⟨0⟩ (reachable_filled _ _) (by decide +kernel)
  have herrors : (lookalikes.check ⟨0⟩).1.errors ≠ [] := fun hnone => by
    have hvalid : (lookalikes.check ⟨0⟩).1.isValid = true := List.isEmpty_iff.mpr hnone
    exact absurd hvalid (by decide +kernel)
  exact ⟨⟨shared, hwarnings, (hshared _).mpr (by decide +kernel), (hshared _).mpr (by decide +kernel)⟩,
    hnodup (by decide +kernel) _, hasserted 2, hfails herrors⟩

end Workspace

end StateMachine
