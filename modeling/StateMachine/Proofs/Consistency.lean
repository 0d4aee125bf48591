import StateMachine.Proofs.Adding
import StateMachine.Proofs.Bare

/-!
# Consistent machines

A machine's registry and its members are two views of one list: what was added, in order. Every operation keeps them
so, whatever was done to the entities in the meantime.
-/

namespace StateMachine

/-! ## One machine -/

namespace Machine

/-- What was added to a machine, by id and in order: all that is registered but the state `#ALL`. -/
def added (x : Machine) : List (String × EntityRef) := x.registry.entries.tail

/-- The state `#ALL` comes first, ids are given out once, and the members of each kind are what was added of it. -/
structure Consistent (kindOf : EntityRef → Kind) (count : Nat) (x : Machine) : Prop where
  entries_eq : x.registry.entries = (allStateId, x.allState) :: x.added
  keys_nodup : (Assoc.keys x.registry.entries).Nodup
  known : ∀ entry ∈ x.registry.entries, entry.2.index < count
  allState_kind : kindOf x.allState = .state
  added_kind : ∀ entry ∈ x.added, Machine.holds (kindOf entry.2) = true
  members_eq : ∀ k, x.members k = (x.added.map (·.2)).filter (kindOf · = k)
  not_reserved : ∀ id ∈ Assoc.keys x.registry.entries, x.registry.reserved ≠ some id
  message_legal : ∀ text, x.head.ownMessage = some text → checkMessage text = .ok ()

variable {kindOf kindOf' : EntityRef → Kind} {count count' : Nat} {x : Machine}

theorem mem_entries_of_added (entry : String × EntityRef) (h : entry ∈ x.added) : entry ∈ x.registry.entries :=
  List.mem_of_mem_tail h

theorem Consistent.allState_mem (h : x.Consistent kindOf count) : (allStateId, x.allState) ∈ x.registry.entries := by
  rw [h.entries_eq]
  exact List.mem_cons_self

/-- More entities, and kinds that stay what they are, do not matter. -/
theorem Consistent.mono (h : x.Consistent kindOf count) (hcount : count ≤ count')
    (hkind : ∀ r : EntityRef, r.index < count → kindOf' r = kindOf r) : x.Consistent kindOf' count' := by
  have hknown : ∀ entry ∈ x.added, entry.2.index < count :=
    fun entry he => h.known entry (mem_entries_of_added entry he)
  have hall : x.allState.index < count := h.known _ h.allState_mem
  refine ⟨h.entries_eq, h.keys_nodup, ?_, ?_, ?_, ?_, h.not_reserved, h.message_legal⟩
  · exact fun entry he => Nat.lt_of_lt_of_le (h.known entry he) hcount
  · rw [hkind _ hall]
    exact h.allState_kind
  · intro entry he
    rw [hkind _ (hknown entry he)]
    exact h.added_kind entry he
  · intro k
    rw [h.members_eq k]
    apply List.filter_congr
    intro r hr
    obtain ⟨entry, he, rfl⟩ := List.mem_map.mp hr
    rw [hkind _ (hknown entry he)]

theorem Consistent.unwarned_iff : x.unwarned.Consistent kindOf count ↔ x.Consistent kindOf count :=
  ⟨fun h => ⟨h.entries_eq, h.keys_nodup, h.known, h.allState_kind, h.added_kind, h.members_eq, h.not_reserved,
    h.message_legal⟩,
   fun h => ⟨h.entries_eq, h.keys_nodup, h.known, h.allState_kind, h.added_kind, h.members_eq, h.not_reserved,
    h.message_legal⟩⟩

theorem consistent_new (head : Head) (all : EntityRef) (hknown : all.index < count) (hkind : kindOf all = .state)
    (hid : head.id ≠ some allStateId) (hlegal : ∀ text, head.ownMessage = some text → checkMessage text = .ok ()) :
    Machine.Consistent kindOf count
      ⟨head, { reserved := head.id, entries := [(allStateId, all)] }, all, fun _ => [], []⟩ where
  entries_eq := rfl
  keys_nodup := by simp [Assoc.keys]
  known := by simpa using hknown
  allState_kind := hkind
  added_kind := by simp [added]
  members_eq := by simp [added]
  not_reserved := by simpa [Assoc.keys] using hid
  message_legal := hlegal

theorem consistent_enroll (h : x.Consistent kindOf count) (id : String) (r : EntityRef) (hknown : r.index < count)
    (hkind : Machine.holds (kindOf r) = true) (hfree : id ∉ Assoc.keys x.registry.entries)
    (hallowed : x.registry.reserved ≠ some id) : (x.enroll id (kindOf r) r).Consistent kindOf count := by
  have hentries : (x.enroll id (kindOf r) r).registry.entries = x.registry.entries ++ [(id, r)] := rfl
  have hadded : (x.enroll id (kindOf r) r).added = x.added ++ [(id, r)] := by
    rw [added, hentries, h.entries_eq]
    rfl
  refine ⟨?_, ?_, ?_, h.allState_kind, ?_, ?_, ?_, h.message_legal⟩
  · rw [hadded, hentries, h.entries_eq]
    rfl
  · rw [hentries, Assoc.keys, List.map_append, List.nodup_append]
    refine ⟨h.keys_nodup, by simp, ?_⟩
    intro a ha b hb hab
    simp only [List.map_cons, List.map_nil, List.mem_singleton] at hb
    exact hfree (hb ▸ hab ▸ ha)
  · rw [hentries]
    intro entry he
    rcases List.mem_append.mp he with he | he
    · exact h.known entry he
    · rw [List.mem_singleton.mp he]
      exact hknown
  · rw [hadded]
    intro entry he
    rcases List.mem_append.mp he with he | he
    · exact h.added_kind entry he
    · rw [List.mem_singleton.mp he]
      exact hkind
  · intro k
    have hmembers : (x.enroll id (kindOf r) r).members k =
        if k = kindOf r then x.members k ++ [r] else x.members k := rfl
    rw [hmembers, hadded, List.map_append, List.filter_append, ← h.members_eq k]
    by_cases hk : k = kindOf r
    · simp [hk]
    · have hk' : ¬ kindOf r = k := fun e => hk e.symm
      simp [hk, hk']
  · rw [hentries]
    intro key hmem
    rw [Assoc.keys, List.map_append, List.mem_append] at hmem
    rcases hmem with hmem | hmem
    · exact h.not_reserved key hmem
    · simp only [List.map_cons, List.map_nil, List.mem_singleton] at hmem
      rw [hmem]
      exact hallowed

end Machine

/-! ## All machines of a workspace -/

namespace Workspace

def Consistent (ws : Workspace) : Prop := ∀ x ∈ ws.machines, x.Consistent ws.kindOf ws.entities.length

theorem Consistent.machine {ws : Workspace} (h : ws.Consistent) (m : MachineRef)
    (hm : m.index < ws.machines.length) : (ws.machine m).Consistent ws.kindOf ws.entities.length := by
  apply h
  rw [machine_eq, List.getElem?_eq_getElem hm]
  exact List.getElem_mem hm

theorem consistent_empty (journal : Journal) : Consistent { journal } := fun x hx => by cases hx

theorem consistent_bare_iff (ws : Workspace) : ws.bare.Consistent ↔ ws.Consistent := by
  simp only [Consistent, kindOf_bare, length_entities_bare]
  simp only [bare, List.forall_mem_map, Machine.Consistent.unwarned_iff]

theorem consistent_of_bare_eq {ws ws' : Workspace} (h : ws'.bare = ws.bare) (hc : ws.Consistent) :
    ws'.Consistent := by
  rw [← consistent_bare_iff, h, consistent_bare_iff]
  exact hc

theorem consistent_newEntity (ws : Workspace) (e : Entity) (h : ws.Consistent) : (ws.newEntity e).2.Consistent := by
  intro x hx
  refine (h x hx).mono (by simp [newEntity]) ?_
  intro r hr
  rw [kindOf, entity_newEntity_old ws e r hr, kindOf]

theorem consistent_newEntities (ws : Workspace) (es : List Entity) (h : ws.Consistent) :
    (ws.newEntities es).2.Consistent := by
  induction es generalizing ws with
  | nil => exact h
  | cons e rest ih => exact ih _ (consistent_newEntity ws e h)

theorem consistent_modifyEntity (ws : Workspace) (r : EntityRef) (f : Entity → Entity)
    (hkind : ∀ e, (f e).kind = e.kind) (h : ws.Consistent) : (ws.modifyEntity r f).Consistent := by
  intro x hx
  refine (h x hx).mono (by simp) ?_
  exact fun s _ => entity_modifyEntity_congr Entity.kind ws r s f hkind

theorem mem_modifyMachine (ws : Workspace) (m : MachineRef) (f : Machine → Machine) (x : Machine)
    (h : x ∈ (ws.modifyMachine m f).machines) :
    x ∈ ws.machines ∨ (m.index < ws.machines.length ∧ x = f (ws.machine m)) := by
  obtain ⟨i, hi⟩ := List.mem_iff_getElem?.mp h
  rw [modifyMachine, List.getElem?_modify] at hi
  by_cases hmi : m.index = i
  · right
    rw [← hmi] at hi
    have hlt : m.index < ws.machines.length := by
      by_contra hge
      simp [List.getElem?_eq_none (Nat.le_of_not_lt hge)] at hi
    refine ⟨hlt, ?_⟩
    rw [machine_eq, List.getElem?_eq_getElem hlt]
    simpa [List.getElem?_eq_getElem hlt, eq_comm] using hi
  · left
    apply List.mem_of_getElem?
    simpa [hmi] using hi

theorem consistent_modifyMachine (ws : Workspace) (m : MachineRef) (f : Machine → Machine)
    (hf : m.index < ws.machines.length → (f (ws.machine m)).Consistent ws.kindOf ws.entities.length)
    (h : ws.Consistent) : (ws.modifyMachine m f).Consistent := by
  intro x hx
  rcases mem_modifyMachine ws m f x hx with hx | ⟨hm, rfl⟩
  · exact h x hx
  · exact hf hm

/-! ### Adding -/

theorem consistent_taking (ws : Workspace) (m : MachineRef) (r : EntityRef)
    (hfree : ws.refusal? m (.entity r) = none) (h : ws.Consistent) : (ws.taking m r).Consistent := by
  obtain ⟨hkind, htaken, hallowed⟩ := (refusal?_eq_none_iff ws m r).mp hfree
  have henrolled : (ws.modifyMachine m fun x => x.enroll (ws.entity r).id (ws.entity r).kind r).Consistent := by
    apply consistent_modifyMachine ws m _ _ h
    exact fun hm => Machine.consistent_enroll (h.machine m hm) _ r (known_of_holds ws r hkind) hkind htaken hallowed
  exact consistent_modifyEntity _ r (fun e => { e with machine := some m }) (fun _ => rfl) henrolled

theorem consistent_addOne (ws : Workspace) (m : MachineRef) (c : Candidate) (h : ws.Consistent) :
    (ws.addOne m c).1.Consistent := by
  cases hc : ws.refusal? m c with
  | some fault =>
    rw [addOne_refused ws m c fault hc]
    exact h
  | none =>
    cases c with
    | foreign typeName => simp [refusal?] at hc
    | entity r =>
      rw [addOne_taken ws m r hc]
      exact consistent_taking ws m r hc h

theorem consistent_add (ws : Workspace) (m : MachineRef) (cs : List Candidate) (h : ws.Consistent) :
    (ws.add m cs).1.Consistent := by
  induction cs generalizing ws with
  | nil => exact h
  | cons c rest ih =>
    have hone := consistent_addOne ws m c h
    rw [add]
    split
    case h_1 heq => rwa [heq] at hone
    case h_2 heq =>
      rw [heq] at hone
      exact ih _ hone

/-! ### Making machines -/

/-- The state `#ALL` of the machine that is made next. -/
def nextAllState (ws : Workspace) : Entity :=
  { id := allStateId, machine := some ⟨ws.machines.length⟩, detail := .state [] [] (some (-1)) }

/-- The workspace with one more machine, which holds nothing but its state `#ALL`. -/
def founding (ws : Workspace) (head : Head) : Workspace :=
  let grown := (ws.newEntity ws.nextAllState).2
  let all : EntityRef := ⟨ws.entities.length⟩
  { grown with machines := grown.machines ++
      [⟨head, { reserved := head.id, entries := [(allStateId, all)] }, all, fun _ => [], []⟩] }

/-- A machine is made unless its message is illegal or it claims the id of the state `#ALL`. -/
theorem newMachine_cases (ws : Workspace) (head : Head) :
    (∃ fault, ws.newMachine head = (ws, .error fault) ∧
      ((head.id = some allStateId ∧ fault = .duplicateIdentifier allStateId "machine" "state" head.id) ∨
        ∃ text, head.ownMessage = some text ∧ checkMessage text = .error fault)) ∨
    (head.id ≠ some allStateId ∧ (∀ text, head.ownMessage = some text → checkMessage text = .ok ()) ∧
      ws.newMachine head = (ws.founding head, .ok ⟨ws.machines.length⟩)) := by
  unfold newMachine
  cases hmessage : head.ownMessage.elim (.ok ()) checkMessage with
  | error fault =>
    left
    refine ⟨fault, rfl, Or.inr ?_⟩
    cases htext : head.ownMessage with
    | none =>
      rw [htext] at hmessage
      cases hmessage
    | some text =>
      rw [htext] at hmessage
      exact ⟨text, rfl, hmessage⟩
  | ok _ =>
    have hlegal : ∀ text, head.ownMessage = some text → checkMessage text = .ok () := by
      intro text htext
      rw [htext] at hmessage
      exact hmessage
    simp only [Registry.register, Registry.find?, List.lookup_nil]
    by_cases hid : head.id = some allStateId
    · have hkind : (ws.newEntity ws.nextAllState).2.kindOf (ws.newEntity ws.nextAllState).1 = .state :=
        congrArg Entity.kind (entity_newEntity_new ws ws.nextAllState)
      left
      refine ⟨.duplicateIdentifier allStateId "machine" "state" head.id, ?_, Or.inl ⟨hid, rfl⟩⟩
      rw [nextAllState] at hkind
      simp only [hid, if_true, hkind]
      rfl
    · simp only [hid, if_false]
      exact Or.inr ⟨hid, hlegal, rfl⟩

theorem consistent_founding (ws : Workspace) (head : Head) (hid : head.id ≠ some allStateId)
    (hlegal : ∀ text, head.ownMessage = some text → checkMessage text = .ok ()) (h : ws.Consistent) :
    (ws.founding head).Consistent := by
  have hgrown := consistent_newEntity ws ws.nextAllState h
  intro x hx
  rcases List.mem_append.mp hx with hx | hx
  · exact hgrown x hx
  · rw [List.mem_singleton.mp hx]
    apply Machine.consistent_new head _ _ _ hid hlegal
    · simp [founding, newEntity]
    · exact congrArg Entity.kind (entity_newEntity_new ws ws.nextAllState)

theorem consistent_newMachine (ws : Workspace) (head : Head) (h : ws.Consistent) :
    (ws.newMachine head).1.Consistent := by
  rcases newMachine_cases ws head with ⟨fault, heq, _⟩ | ⟨hid, hlegal, heq⟩
  · rw [heq]
    exact h
  · rw [heq]
    exact consistent_founding ws head hid hlegal h

end Workspace

end StateMachine
