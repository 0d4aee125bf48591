import Mathlib.Data.List.Forall2
import StateMachine.Proofs.Deciding
import StateMachine.Proofs.History
import StateMachine.Proofs.Validity

/-!
# Making machines of parts

A machine is made of a head and entities. It does not matter whether all of these are made before the first is added, or
each just before it is added. Nor does it matter for anything else where the parts were declared and which attributes
they have.
-/

namespace StateMachine

/-- The entity as one that belongs to a machine. -/
def Entity.ownedBy (e : Entity) (m : MachineRef) : Entity := { e with machine := some m }

namespace Workspace

/-- Makes a machine and entities, and adds these in order. -/
def construct (ws : Workspace) (head : Head) (es : List Entity) : Workspace × Except Fault MachineRef :=
  match ws.newMachine head with
  | (ws, .error fault) => (ws, .error fault)
  | (ws, .ok m) =>
    let (refs, ws) := ws.newEntities es
    match ws.add m (refs.map .entity) with
    | (ws, .error fault) => (ws, .error fault)
    | (ws, .ok ()) => (ws, .ok m)

/-- Makes entities and adds each before the next one is made, up to the first that is refused. -/
def addEach (ws : Workspace) (m : MachineRef) : List Entity → Workspace × Except Fault Unit
  | [] => (ws, .ok ())
  | e :: rest =>
    let (r, ws) := ws.newEntity e
    match ws.add m [.entity r] with
    | (ws, .error fault) => (ws, .error fault)
    | (ws, .ok ()) => ws.addEach m rest

/-! ## One by one or all at once -/

theorem add_singleton (ws : Workspace) (m : MachineRef) (c : Candidate) : ws.add m [c] = ws.addOne m c := by
  rw [add]
  split
  case h_1 heq => rw [heq]
  case h_2 heq => rw [heq, add]

theorem addEach_append (ws : Workspace) (m : MachineRef) (es fs : List Entity) :
    ws.addEach m (es ++ fs) = match ws.addEach m es with
      | (ws, .error fault) => (ws, .error fault)
      | (ws, .ok ()) => ws.addEach m fs := by
  induction es generalizing ws with
  | nil => rfl
  | cons e rest ih =>
    rw [List.cons_append, addEach, addEach]
    dsimp only
    split
    case h_1 => rfl
    case h_2 filled _ => exact ih filled

/-- What a machine has registered is there. -/
def Knows (ws : Workspace) (m : MachineRef) : Prop :=
  ∀ entry ∈ (ws.machine m).registry.entries, entry.2.index < ws.entities.length

theorem modify_append_left {α : Type} (xs ys : List α) (i : Nat) (f : α → α) (h : i < xs.length) :
    (xs ++ ys).modify i f = xs.modify i f ++ ys := by
  apply List.ext_getElem?
  intro j
  by_cases hj : j < xs.length
  · rw [List.getElem?_modify, List.getElem?_append_left hj, List.getElem?_append_left (by simpa using hj),
      List.getElem?_modify]
  · have hne : i ≠ j := by omega
    rw [List.getElem?_modify_ne f _ hne, List.getElem?_append_right (by omega),
      List.getElem?_append_right (by simpa using Nat.le_of_not_lt hj), List.length_modify]

theorem machine_newEntities (ws : Workspace) (es : List Entity) (m : MachineRef) :
    (ws.newEntities es).2.machine m = ws.machine m := by
  rw [newEntities_eq]
  rfl

section
variable (ws : Workspace) (m : MachineRef) (r : EntityRef) (es : List Entity)

theorem card_newEntities (hr : r.index < ws.entities.length) : (ws.newEntities es).2.card r = ws.card r := by
  rw [card, kindOf, entity_newEntities_old ws es r hr, card, kindOf]

theorem ledger_newEntities (hknown : ws.Knows m) : (ws.newEntities es).2.ledger m = ws.ledger m := by
  rw [ledger, ledger, machine_newEntities]
  refine Prod.ext rfl (List.map_congr_left fun entry he => ?_)
  rw [kindOf, entity_newEntities_old ws es entry.2 (hknown entry he), kindOf]

theorem refusal?_newEntities (hknown : ws.Knows m) (hr : r.index < ws.entities.length) :
    (ws.newEntities es).2.refusal? m (.entity r) = ws.refusal? m (.entity r) := by
  rw [refusal?_eq_objection?, refusal?_eq_objection?, ledger_newEntities ws m es hknown, card_newEntities ws r es hr]

/-- Entities may as well be made after another one is taken over as before. -/
theorem newEntities_taking (hr : r.index < ws.entities.length) :
    (ws.taking m r).newEntities es = ((ws.newEntities es).1, (ws.newEntities es).2.taking m r) := by
  have hentity := entity_newEntities_old ws es r hr
  rw [newEntities_eq] at hentity
  rw [newEntities_eq, newEntities_eq, length_entities_taking]
  simp only [taking, hentity]
  simp only [modifyEntity, modifyMachine, log, modify_append_left _ _ _ _ hr]

theorem knows_newEntity (e : Entity) (hknown : ws.Knows m) : (ws.newEntity e).2.Knows m := fun entry he => by
  have hold : entry.2.index < ws.entities.length := hknown entry he
  simp only [newEntity, List.length_append]
  omega

theorem knows_taking (hm : m.index < ws.machines.length) (hknown : ws.Knows m) (hr : r.index < ws.entities.length) :
    (ws.taking m r).Knows m := by
  intro entry he
  rw [length_entities_taking]
  rw [machine_taking_self ws m r hm] at he
  rcases List.mem_append.mp he with he | he
  · exact hknown entry he
  · rw [List.mem_singleton.mp he]
    exact hr

end

/-- Two attempts end alike: with the same result, or with the same fault. -/
def EndAlike {α : Type} (x y : Workspace × Except Fault α) : Prop :=
  x = y ∨ ∃ fault, x.2 = .error fault ∧ y.2 = .error fault

theorem EndAlike.snd_eq {α : Type} {x y : Workspace × Except Fault α} (h : EndAlike x y) : x.2 = y.2 := by
  rcases h with rfl | ⟨fault, hx, hy⟩
  · rfl
  · rw [hx, hy]

theorem EndAlike.eq_of_ok {α : Type} {x y : Workspace × Except Fault α} (h : EndAlike x y) {a : α} (hok : y.2 = .ok a) :
    x = y := by
  rcases h with heq | ⟨fault, _, hy⟩
  · exact heq
  · rw [hy] at hok
    cases hok

/-- Adding each entity before the next one is made ends like adding all of them once they are made. -/
theorem endAlike_addEach (ws : Workspace) (m : MachineRef) (es : List Entity) (hm : m.index < ws.machines.length)
    (hknown : ws.Knows m) :
    EndAlike (ws.addEach m es) ((ws.newEntities es).2.add m ((ws.newEntities es).1.map .entity)) := by
  -- The entities that are still to be made do not matter for the first one, and its being taken over not for them.
  induction es generalizing ws with
  | nil => exact Or.inl rfl
  | cons e rest ih =>
    let made := (ws.newEntity e).2
    let r := (ws.newEntity e).1
    have hm' : m.index < made.machines.length := hm
    have hr : r.index < made.entities.length := by simp [r, made, newEntity]
    have hmade : made.Knows m := knows_newEntity ws m e hknown
    have hsame := refusal?_newEntities made m r rest hmade hr
    have heach : ws.addEach m (e :: rest) = match made.addOne m (.entity r) with
        | (ws, .error fault) => (ws, .error fault)
        | (ws, .ok ()) => ws.addEach m rest := by
      rw [← add_singleton]
      rfl
    have hall : (ws.newEntities (e :: rest)).2.add m ((ws.newEntities (e :: rest)).1.map .entity) =
        match (made.newEntities rest).2.addOne m (.entity r) with
        | (ws, .error fault) => (ws, .error fault)
        | (ws, .ok ()) => ws.add m ((made.newEntities rest).1.map .entity) := rfl
    rw [heach, hall]
    cases hfirst : made.refusal? m (.entity r) with
    | some fault =>
      rw [addOne_refused made m _ fault hfirst, addOne_refused _ m _ fault (hsame.trans hfirst)]
      exact Or.inr ⟨fault, rfl, rfl⟩
    | none =>
      have hrest := ih (made.taking m r) (by simpa using hm') (knows_taking made m r hm' hmade hr)
      rw [newEntities_taking made m r rest hr] at hrest
      rw [addOne_taken made m r hfirst, addOne_taken _ m r (hsame.trans hfirst)]
      exact hrest

/-- Makes a machine, and makes and adds entities one by one. -/
def constructEach (ws : Workspace) (head : Head) (es : List Entity) : Workspace × Except Fault MachineRef :=
  match ws.newMachine head with
  | (ws, .error fault) => (ws, .error fault)
  | (ws, .ok m) =>
    match ws.addEach m es with
    | (ws, .error fault) => (ws, .error fault)
    | (ws, .ok ()) => (ws, .ok m)

theorem knows_founding (ws : Workspace) (head : Head) : (ws.founding head).Knows ws.nextMachine := by
  intro entry he
  rw [machine_founding_next] at he
  rw [List.mem_singleton.mp he]
  simp [founding, newEntity]

theorem nextMachine_lt_founding (ws : Workspace) (head : Head) :
    ws.nextMachine.index < (ws.founding head).machines.length := by
  rw [length_machines_founding]
  exact Nat.lt_succ_self _

theorem endAlike_constructEach (ws : Workspace) (head : Head) (es : List Entity) :
    EndAlike (ws.constructEach head es) (ws.construct head es) := by
  rw [constructEach, construct]
  rcases newMachine_cases ws head with ⟨fault, hmade, _⟩ | ⟨_, _, hmade⟩
  · rw [hmade]
    exact Or.inl rfl
  · rw [hmade]
    have hfilled := endAlike_addEach (ws.founding head) ws.nextMachine es (nextMachine_lt_founding ws head)
      (knows_founding ws head)
    rw [nextMachine] at hfilled
    dsimp only
    rcases hfilled with heq | ⟨fault, heach, hall⟩
    · rw [heq]
      exact Or.inl rfl
    · refine Or.inr ⟨fault, ?_, ?_⟩
      · split
        case h_1 heq => rw [heq] at heach; exact congrArg _ (Except.error.inj heach)
        case h_2 heq => rw [heq] at heach; cases heach
      · split
        case h_1 heq => rw [heq] at hall; exact congrArg _ (Except.error.inj hall)
        case h_2 heq => rw [heq] at hall; cases hall

theorem nextMachine_lt_made (ws : Workspace) (head : Head) (es : List Entity) :
    ws.nextMachine.index < ((ws.founding head).newEntities es).2.machines.length := by
  rw [newEntities_eq]
  exact nextMachine_lt_founding ws head

/-! ## What is made -/

section
variable {ws : Workspace} {head : Head} {es : List Entity} {m : MachineRef}

/-- The entities of a machine that is made of parts, but for the state `#ALL`. -/
def partsOf (ws : Workspace) (es : List Entity) : List EntityRef :=
  (List.range' (ws.entities.length + 1) es.length).map EntityRef.mk

/-- A machine that is made of parts holds these. -/
theorem construct_eq_of_ok (h : (ws.construct head es).2 = .ok m) : m = ws.nextMachine ∧
    (ws.construct head es).1 = ((ws.founding head).newEntities es).2.takingAll m (ws.partsOf es) := by
  have hrefs : ((ws.founding head).newEntities es).1 = ws.partsOf es := by
    rw [newEntities_eq, partsOf]
    simp [founding, newEntity]
  rw [construct] at h ⊢
  rcases newMachine_cases ws head with ⟨fault, hmade, _⟩ | ⟨_, _, hmade⟩
  · rw [hmade] at h
    cases h
  · rw [hmade] at h ⊢
    dsimp only at h ⊢
    have hm := nextMachine_lt_made ws head es
    rw [nextMachine] at hm
    split at h
    case h_1 => cases h
    case h_2 filled heq =>
      have hadmits := (add_ok_iff _ _ _ hm).mp (congrArg Prod.snd heq)
      rw [add_of_admits _ _ _ hm hadmits] at heq
      obtain rfl := Except.ok.inj h
      exact ⟨rfl, (Prod.mk.inj heq).1.symm.trans (congrArg _ hrefs)⟩

/-- A machine is made of a head and entities of held kinds if no id would be given out twice. -/
theorem construct_cases (ws : Workspace) (head : Head) (es : List Entity)
    (hlegal : ∀ text, head.ownMessage = some text → checkMessage text = .ok ())
    (hholds : ∀ e ∈ es, Machine.holds e.kind = true) :
    ((head.id.toList ++ allStateId :: es.map (·.id)).Nodup ∧ (ws.construct head es).2 = .ok ws.nextMachine) ∨
    ∃ id existing new, (ws.construct head es).2 = .error (.duplicateIdentifier id existing new head.id) ∧
      2 ≤ (head.id.toList ++ allStateId :: es.map (·.id)).count id := by
  rcases newMachine_cases ws head with ⟨fault, hmade, ⟨hid, rfl⟩ | ⟨text, htext, hcheck⟩⟩ | ⟨hid, -, hmade⟩
  · refine Or.inr ⟨allStateId, "machine", "state", by rw [construct, hmade], ?_⟩
    rw [hid, Option.toList_some, List.singleton_append, List.count_cons_self, List.count_cons_self]
    omega
  · rw [hlegal text htext] at hcheck
    cases hcheck
  · let filled := ((ws.founding head).newEntities es).2
    let refs := ((ws.founding head).newEntities es).1
    have hm : ws.nextMachine.index < filled.machines.length := nextMachine_lt_made ws head es
    have hmachine : filled.machine ws.nextMachine = (ws.founding head).machine ws.nextMachine :=
      machine_newEntities _ es _
    have hnew : refs.map filled.entity = es.map Entity.named := map_entity_newEntities (ws.founding head) es
    have hids : filled.idsOf refs = es.map (·.id) := by
      have h := congrArg (List.map (·.id)) hnew
      rwa [List.map_map, List.map_map] at h
    have hkinds : ∀ r ∈ refs, Machine.holds (filled.kindOf r) = true := fun r hr => by
      obtain ⟨e, he, heq⟩ := List.mem_map.mp (hnew ▸ List.mem_map_of_mem hr)
      rw [kindOf, ← heq]
      exact hholds e he
    rw [machine_founding_next] at hmachine
    have hconstruct : (ws.construct head es).2 =
        (filled.add ws.nextMachine (refs.map .entity)).2.map fun _ => ws.nextMachine := by
      rw [construct, hmade]
      change (match filled.add ws.nextMachine (refs.map .entity) with
        | (ws, .error fault) => (ws, .error fault)
        | (made, .ok ()) => (made, .ok ws.nextMachine) : Workspace × Except Fault MachineRef).2 = _
      rcases filled.add ws.nextMachine (refs.map .entity) with ⟨made, fault | _⟩ <;> rfl
    rw [hconstruct]
    rcases add_cases filled ws.nextMachine refs hm hkinds with
      hadmits | ⟨before, r, after, existing, new, hsplit, hstuck, hadd⟩
    · left
      rw [(add_ok_iff filled ws.nextMachine refs hm).mpr hadmits]
      refine ⟨(nodup_reserved_iff head.id _).mpr ⟨hid, ?_, ?_⟩, rfl⟩
      · have hfree := hadmits.free
        rw [takenIds, hmachine, hids] at hfree
        exact List.nodup_cons.mpr ⟨fun hmem => hfree _ hmem (by simp [Assoc.keys]), hids ▸ hadmits.distinct⟩
      · have hallowed := hadmits.allowed
        rwa [hmachine, hids] at hallowed
    · right
      rw [hadd, hmachine]
      refine ⟨(filled.entity r).id, existing, new, rfl, ?_⟩
      rw [← hids, hsplit, idsOf, List.map_append, List.map_cons]
      have hclash := hstuck.clash
      rw [takenIds, hmachine] at hclash
      exact two_le_count _ _ _ _ (hclash.imp_left fun h => by simpa [Assoc.keys] using h)

/-- A machine that is made of parts has the head, and was joined by the entities, which belong to it now. -/
structure IsMadeOf (ws made : Workspace) (m : MachineRef) (head : Head) (es : List Entity) : Prop where
  head_eq : (made.machine m).head = head
  joined_eq : made.joined m = ws.partsOf es
  entities_eq : (ws.partsOf es).map made.entity = es.map fun e => e.named.ownedBy m
  allState_eq : (made.machine m).allState = ⟨ws.entities.length⟩
  entity_allState_eq : made.entity ⟨ws.entities.length⟩ = ws.nextAllState.named

theorem isMadeOf_construct (h : (ws.construct head es).2 = .ok m) :
    ws.IsMadeOf (ws.construct head es).1 m head es := by
  obtain ⟨rfl, hmade⟩ := construct_eq_of_ok h
  have hmachine := machine_newEntities (ws.founding head) es ws.nextMachine
  have hm := nextMachine_lt_made ws head es
  have hfounded : (ws.founding head).entities.length = ws.entities.length + 1 := by simp [founding, newEntity]
  have hrefs : ((ws.founding head).newEntities es).1 = ws.partsOf es := by
    rw [newEntities_eq, partsOf, hfounded]
  have hfilled := machine_takingAll_self _ ws.nextMachine (ws.partsOf es) hm
  rw [hmachine, machine_founding_next] at hfilled
  rw [hmade]
  refine ⟨by rw [hfilled], ?_, ?_, by rw [hfilled], ?_⟩
  · rw [joined, Machine.added, hfilled]
    simp [Function.comp_def]
  · have hnew := map_entity_newEntities (ws.founding head) es
    have hsplit : es.map (fun e => e.named.ownedBy ws.nextMachine) =
        (es.map Entity.named).map fun e => e.ownedBy ws.nextMachine := by rw [List.map_map]; rfl
    rw [hsplit, ← hnew, hrefs, List.map_map]
    refine List.map_congr_left fun r hr => entity_takingAll_of_mem _ _ _ _ hr ?_
    exact (newEntities_fresh _ es r (hrefs ▸ hr)).2
  · have hnot : (⟨ws.entities.length⟩ : EntityRef) ∉ ws.partsOf es := by simp [partsOf]
    rw [entity_takingAll_of_not_mem _ _ _ _ hnot, entity_newEntities_old _ _ _ (by simp [hfounded])]
    exact entity_newEntity_new ws ws.nextAllState

/-- What holds of the parts of two machines one by one holds of their entities. -/
theorem IsMadeOf.forall_joined {R : Entity → Entity → Prop} {made made' : Workspace} {head' : Head}
    {es' : List Entity} (h : ws.IsMadeOf made m head es) (h' : ws.IsMadeOf made' m head' es')
    (hparts : List.Forall₂ (fun e e' => R (e.named.ownedBy m) (e'.named.ownedBy m)) es es') :
    ∀ r ∈ made.joined m, R (made.entity r) (made'.entity r) := by
  have hrefs : ws.partsOf es' = ws.partsOf es := by rw [partsOf, partsOf, hparts.length_eq]
  have hmapped : List.Forall₂ R (es.map fun e => e.named.ownedBy m) (es'.map fun e => e.named.ownedBy m) := by
    rwa [List.forall₂_map_left_iff, List.forall₂_map_right_iff]
  rw [← h.entities_eq, ← h'.entities_eq, hrefs, List.forall₂_map_left_iff, List.forall₂_map_right_iff,
    List.forall₂_same] at hmapped
  rwa [h.joined_eq]

end

end Workspace

/-! ## Outlines -/

/-- The entity without its place of declaration and its attributes. -/
def Entity.outline (e : Entity) : Entity := { e with location := none, attrs := [] }

/-- The head without its place of declaration and its attributes. -/
def Head.outline (head : Head) : Head := { head with location := none, attrs := [] }

/-- The machine without the place of its declaration and its attributes. -/
def Machine.outline (m : Machine) : Machine := { m with head := m.head.outline }

namespace Workspace

/-- The workspace without places of declaration and attributes. -/
def outline (ws : Workspace) : Workspace :=
  { ws with entities := ws.entities.map Entity.outline, machines := ws.machines.map Machine.outline }

theorem map_modify_of_commute {α β : Type} (g : α → β) (f : α → α) (f' : β → β) (h : ∀ a, g (f a) = f' (g a))
    (xs : List α) (i : Nat) : (xs.modify i f).map g = (xs.map g).modify i f' := by
  apply List.ext_getElem?
  intro j
  rw [List.getElem?_map, List.getElem?_modify, List.getElem?_modify, List.getElem?_map]
  cases xs[j]? with
  | none => rfl
  | some a => by_cases hj : i = j <;> simp [hj, h]

section
variable (ws : Workspace)

@[simp]
theorem entity_outline (r : EntityRef) : ws.outline.entity r = (ws.entity r).outline := by
  simp only [entity_eq, outline, List.getElem?_map]
  cases ws.entities[r.index]? <;> rfl

@[simp]
theorem machine_outline (m : MachineRef) : ws.outline.machine m = (ws.machine m).outline := by
  simp only [machine_eq, outline, List.getElem?_map]
  cases ws.machines[m.index]? <;> rfl

@[simp]
theorem kindOf_outline : ws.outline.kindOf = ws.kindOf := by
  funext r
  rw [kindOf, entity_outline]
  rfl

theorem outline_newEntities (es : List Entity) : ws.outline.newEntities (es.map Entity.outline) =
    ((ws.newEntities es).1, (ws.newEntities es).2.outline) := by
  rw [newEntities_eq, newEntities_eq]
  simp [outline, Function.comp_def, Entity.named, Entity.outline]

theorem outline_taking (m : MachineRef) (r : EntityRef) : (ws.taking m r).outline = ws.outline.taking m r := by
  have hentities := map_modify_of_commute Entity.outline (fun e => { e with machine := some m })
    (fun e => { e with machine := some m }) (fun _ => rfl) ws.entities r.index
  have hmachines := map_modify_of_commute Machine.outline (fun x => x.enroll (ws.entity r).id (ws.entity r).kind r)
    (fun x => x.enroll (ws.entity r).id (ws.entity r).kind r) (fun _ => rfl) ws.machines m.index
  simp only [taking, entity_outline]
  simp only [modifyEntity, modifyMachine, log, outline, hentities, hmachines]
  rfl

theorem refusal?_outline (m : MachineRef) (c : Candidate) : ws.outline.refusal? m c = ws.refusal? m c := by
  cases c with
  | foreign typeName => rfl
  | entity r =>
    simp only [refusal?, entity_outline, machine_outline, kindOf_outline]
    rfl

theorem outline_add (m : MachineRef) (cs : List Candidate) :
    ws.outline.add m cs = ((ws.add m cs).1.outline, (ws.add m cs).2) := by
  induction cs generalizing ws with
  | nil => rfl
  | cons c rest ih =>
    have hsame := refusal?_outline ws m c
    rw [add, add]
    cases hc : ws.refusal? m c with
    | some fault => rw [addOne_refused ws m c fault hc, addOne_refused ws.outline m c fault (hsame.trans hc)]
    | none =>
      cases c with
      | foreign typeName => simp [refusal?] at hc
      | entity r =>
        rw [addOne_taken ws m r hc, addOne_taken ws.outline m r (hsame.trans hc), ← outline_taking]
        exact ih (ws.taking m r)

theorem outline_newMachine (head : Head) : ws.outline.newMachine head.outline =
    ((ws.newMachine head).1.outline, (ws.newMachine head).2) := by
  have hlength : ws.outline.machines.length = ws.machines.length := List.length_map _
  have hgrown : ws.outline.newEntity ws.nextAllState =
      ((ws.newEntity ws.nextAllState).1, (ws.newEntity ws.nextAllState).2.outline) := by
    simp [newEntity, outline, nextAllState, Entity.named, Entity.outline]
  rw [nextAllState] at hgrown
  unfold newMachine
  simp only [hlength, hgrown, kindOf_outline, Head.outline]
  cases head.ownMessage.elim (Except.ok ()) checkMessage with
  | error fault => rfl
  | ok _ =>
    dsimp only
    split
    case h_1 => rfl
    case h_2 => simp [outline, Machine.outline, Head.outline]

theorem outline_construct (head : Head) (es : List Entity) : ws.outline.construct head.outline (es.map Entity.outline) =
    ((ws.construct head es).1.outline, (ws.construct head es).2) := by
  rw [construct, construct, outline_newMachine]
  cases hmade : ws.newMachine head with
  | mk founded outcome =>
    cases outcome with
    | error fault => rfl
    | ok m =>
      dsimp only
      rw [outline_newEntities]
      dsimp only
      rw [outline_add]
      cases hadded : (founded.newEntities es).2.add m ((founded.newEntities es).1.map .entity) with
      | mk filled outcome => cases outcome <;> rfl

/-- Machines are made alike of parts with the same outlines. -/
theorem construct_congr {head head' : Head} {es es' : List Entity} (hhead : head'.outline = head.outline)
    (hes : es'.map Entity.outline = es.map Entity.outline) :
    (ws.construct head' es').2 = (ws.construct head es).2 ∧
      (ws.construct head' es').1.outline = (ws.construct head es).1.outline := by
  have h := outline_construct ws head es
  rw [← hhead, ← hes, outline_construct ws head' es'] at h
  exact ⟨(Prod.mk.inj h).2, (Prod.mk.inj h).1⟩

/-- Whether a machine is valid does not depend on places of declaration and attributes. -/
theorem isValid_outline (m : MachineRef) : (ws.outline.check m).1.isValid = (ws.check m).1.isValid := by
  rw [Bool.eq_iff_iff, isValid_iff, isValid_iff]
  simp only [referenceError?_eq_none_iff, find, lookup, members, machine_outline, kindOf_outline, entity_outline]
  have hexit : ws.outline.exitOf = ws.exitOf := by
    funext r
    rw [exitOf, entity_outline]
    rfl
  rw [hexit]
  rfl

theorem assertValid_ok_iff (m : MachineRef) :
    (ws.assertValid m).2 = .ok () ↔ (ws.check m).1.isValid = true := by
  rw [assertValid]
  dsimp only
  split
  case isTrue h => exact iff_of_true rfl h
  case isFalse h => exact iff_of_false (fun heq => nomatch heq) h

end

end Workspace

end StateMachine
