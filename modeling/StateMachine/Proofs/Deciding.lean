import StateMachine.Proofs.Clashing

/-!
# What decides whether a machine takes things

A machine that is asked to take entities looks at nothing but their ids and kinds, and at the ids that it has given
out. Machines that have given out the same ids give the same answer, and the same fault if they refuse.
-/

namespace StateMachine.Workspace

/-- What a machine looks at in an entity: its id and its kind. -/
def card (ws : Workspace) (r : EntityRef) : String × Kind := ((ws.entity r).id, ws.kindOf r)

/-- What a machine looks at in its registry: the reserved id, and the other ids with the kinds of their entities. -/
def ledger (ws : Workspace) (m : MachineRef) : Option String × List (String × Kind) :=
  ((ws.machine m).registry.reserved, (ws.machine m).registry.entries.map fun entry => (entry.1, ws.kindOf entry.2))

/-! ## One addition -/

theorem lookup_ledger (ws : Workspace) (m : MachineRef) (id : String) :
    (ws.ledger m).2.lookup id = ((ws.machine m).registry.find? id).map ws.kindOf := by
  rw [ledger, Registry.find?]
  induction (ws.machine m).registry.entries with
  | nil => rfl
  | cons entry rest ih =>
    rw [List.map_cons, List.lookup_cons, List.lookup_cons, ih]
    cases id == entry.1 <;> rfl

/-- Why a machine with this ledger refuses an entity with this card, if it does. -/
def objection? (ledger : Option String × List (String × Kind)) (card : String × Kind) : Option Fault :=
  if !Machine.holds card.2 then some (.notAddable "Entity")
  else
    match ledger.2.lookup card.1 with
    | some held => some (.duplicateIdentifier card.1 held.name card.2.name ledger.1)
    | none =>
      if ledger.1 = some card.1 then some (.duplicateIdentifier card.1 "machine" card.2.name ledger.1) else none

theorem refusal?_eq_objection? (ws : Workspace) (m : MachineRef) (r : EntityRef) :
    ws.refusal? m (.entity r) = objection? (ws.ledger m) (ws.card r) := by
  have hfound : (ws.ledger m).2.lookup (ws.card r).1 = _ := lookup_ledger ws m (ws.entity r).id
  rw [refusal?, objection?, hfound]
  cases (ws.machine m).registry.find? (ws.entity r).id <;> rfl

theorem ledger_taking (ws : Workspace) (m : MachineRef) (r : EntityRef) (hm : m.index < ws.machines.length) :
    (ws.taking m r).ledger m = ((ws.ledger m).1, (ws.ledger m).2 ++ [ws.card r]) := by
  rw [ledger, machine_taking_self ws m r hm, kindOf_taking]
  simp [Machine.enroll, Machine.join, ledger, card]

@[simp]
theorem card_taking (ws : Workspace) (m : MachineRef) (r : EntityRef) : (ws.taking m r).card = ws.card := by
  funext s
  rw [card, id_taking, kindOf_taking, card]

/-! ## A list of additions -/

section
variable {ws ws' : Workspace} {m m' : MachineRef}

/-- Entities with the same cards fare the same in machines with the same ledger. -/
theorem snd_add_congr (hm : m.index < ws.machines.length) (hm' : m'.index < ws'.machines.length)
    (hledger : ws'.ledger m' = ws.ledger m) (refs refs' : List EntityRef)
    (hcards : refs'.map ws'.card = refs.map ws.card) :
    (ws'.add m' (refs'.map .entity)).2 = (ws.add m (refs.map .entity)).2 := by
  -- The ledgers stay the same after each addition, and that carries the induction.
  induction refs generalizing ws ws' refs' with
  | nil =>
    rw [List.map_nil, List.map_eq_nil_iff] at hcards
    rw [hcards]
    rfl
  | cons r rest ih =>
    obtain ⟨r', rest', rfl, hcard, hrest⟩ := List.map_eq_cons_iff.mp hcards
    have hsame : ws'.refusal? m' (.entity r') = ws.refusal? m (.entity r) := by
      rw [refusal?_eq_objection?, refusal?_eq_objection?, hledger, hcard]
    rw [List.map_cons, List.map_cons, add, add]
    cases hfirst : ws.refusal? m (.entity r) with
    | some fault => rw [addOne_refused ws m _ fault hfirst, addOne_refused ws' m' _ fault (hsame.trans hfirst)]
    | none =>
      rw [addOne_taken ws m r hfirst, addOne_taken ws' m' r' (hsame.trans hfirst)]
      refine ih (by simpa using hm) (by simpa using hm') ?_ rest' ?_
      · rw [ledger_taking ws m r hm, ledger_taking ws' m' r' hm', hledger, hcard]
      · simpa using hrest

end

/-! ## A new machine -/

/-- The cards of what a new machine is to take over. -/
def cardsFor (ws : Workspace) (m : MachineRef) (events states : List EntityRef) (arcs : List FiringArc) :
    List (String × Kind) :=
  events.map ws.card ++ states.map ws.card ++ arcs.map (fun a => ((ws.firing a).id, .arc)) ++
    (ws.members m .bundle ++ ws.members m .action).map ws.card

theorem ledger_stocked (ws : Workspace) (m : MachineRef) (arcs : List FiringArc) :
    (ws.stocked m arcs).ledger ws.nextMachine = ((ws.machine m).head.id, [(allStateId, .state)]) := by
  rw [ledger, machine_stocked_new, List.map_singleton, kindOf, entity_stocked_all]
  rfl

section
variable {ws : Workspace} {m : MachineRef} {events states : List EntityRef} {arcs : List FiringArc}
  (p : Parts ws m events states arcs)
include p

theorem map_card_batch :
    (ws.batch m events states arcs).map (ws.stocked m arcs).card = ws.cardsFor m events states arcs := by
  have hold : ∀ refs : List EntityRef,
      (∀ r ∈ refs, r ∈ events ++ states ∨ r ∈ ws.members m .bundle ++ ws.members m .action) →
      refs.map (ws.stocked m arcs).card = refs.map ws.card := fun refs hrefs =>
    List.map_congr_left fun r hr => by
      rw [card, kindOf, entity_stocked_old ws m arcs r (p.old r (hrefs r hr)), card, kindOf]
  have hcopied : (ws.copied m arcs).map (ws.stocked m arcs).card = arcs.map fun a => ((ws.firing a).id, .arc) := by
    have hids := congrArg (List.map fun e : Entity => (e.id, e.kind)) (map_entity_copied ws m arcs p.arcs)
    rw [List.map_map, List.map_map] at hids
    exact hids.trans (List.map_congr_left fun a ha => Prod.ext rfl (p.arcs a ha))
  rw [batch_eq ws m arcs events states p.inRange, cardsFor]
  simp only [List.map_append, hcopied, hold _ fun r hr => Or.inl (List.mem_append_left _ hr),
    hold _ fun r hr => Or.inl (List.mem_append_right _ hr), hold _ fun r hr => Or.inr (List.mem_append_left _ hr),
    hold _ fun r hr => Or.inr (List.mem_append_right _ hr)]

/-- How the making of the new machine ends: it is refused for its id, or what it takes over decides. -/
theorem snd_assemble : (ws.assemble m events states arcs).2.map (fun _ => ()) =
    if (ws.machine m).head.id = some allStateId then
      .error (.duplicateIdentifier allStateId "machine" "state" (ws.machine m).head.id)
    else ((ws.stocked m arcs).add ws.nextMachine ((ws.batch m events states arcs).map .entity)).2 := by
  have hhead : Head.copied (ws.machine m).head = ws.headFor m := rfl
  have hstages := assemble_cases ws m events states arcs
  rw [hhead] at hstages
  -- Its message is legal, as that of the old machine is: only the id can stand against a new machine.
  rcases newMachine_headFor_cases p with ⟨hid, hmade⟩ | ⟨hid, hmade⟩
  · rw [hmade] at hstages
    rcases hstages with ⟨fault, heq, hassemble⟩ | ⟨heq, _⟩
    · rw [if_pos hid, hassemble, ← Except.error.inj (Prod.mk.inj heq).2]
      rfl
    · cases (Prod.mk.inj heq).2
  · rw [hmade] at hstages
    rcases hstages with ⟨fault, heq, _⟩ | ⟨_, hassemble⟩
    · cases (Prod.mk.inj heq).2
    · rw [if_neg hid, hassemble, ← nextMachine]
      dsimp only
      cases ((ws.stocked m arcs).add ws.nextMachine ((ws.batch m events states arcs).map .entity)).2 <;> rfl

end

/-- New machines of one id that are to take entities with the same cards are made alike, or fail with one fault. -/
theorem snd_assemble_congr {ws ws' : Workspace} {m : MachineRef} {events states : List EntityRef}
    {arcs : List FiringArc} (p : Parts ws m events states arcs) (p' : Parts ws' m events states arcs)
    (hid : (ws'.machine m).head.id = (ws.machine m).head.id)
    (hcards : ws'.cardsFor m events states arcs = ws.cardsFor m events states arcs) :
    (ws'.assemble m events states arcs).2.map (fun _ => ()) =
      (ws.assemble m events states arcs).2.map fun _ => () := by
  rw [snd_assemble p, snd_assemble p', hid, snd_add_congr (nextMachine_lt_stocked ws m arcs)
    (nextMachine_lt_stocked ws' m arcs) ?_ (ws.batch m events states arcs) (ws'.batch m events states arcs) ?_]
  · rw [ledger_stocked, ledger_stocked, hid]
  · rw [map_card_batch p, map_card_batch p', hcards]

end StateMachine.Workspace
