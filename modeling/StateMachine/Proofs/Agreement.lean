import StateMachine.Proofs.Ordering

/-!
# Workspaces that agree on a machine

What fires in a machine depends on its registry and its members, on the kinds and ids of what it registers, and on its
arcs. Workspaces that agree on these have the same arcs on every event.
-/

namespace StateMachine.Workspace

/-- A lookup reads nothing but what is registered, and the kinds of that. -/
theorem find_congr {ws ws' : Workspace} {m m' : MachineRef} (kind : Kind) (id : Option String)
    (hentries : (ws'.machine m').registry.entries = (ws.machine m).registry.entries)
    (hkinds : ∀ entry ∈ (ws.machine m).registry.entries, ws'.kindOf entry.2 = ws.kindOf entry.2) :
    ws'.find m' kind id = ws.find m kind id := by
  unfold find lookup Registry.lookup Registry.find?
  rw [hentries]
  cases id with
  | none => rfl
  | some i =>
    rw [Option.bind_some]
    cases hfound : (ws.machine m).registry.entries.lookup i with
    | none => rfl
    | some r =>
      have hr : (i, r) ∈ (ws.machine m).registry.entries := by
        obtain ⟨before, after, hsplit, _⟩ := List.lookup_eq_some_iff.mp hfound
        rw [hsplit]
        simp
      have hkind : ws'.kindOf r = ws.kindOf r := hkinds _ hr
      simp only [Option.map_some, hkind]

/-- What a resolution reads of a machine is the same in both workspaces. -/
structure Agrees (ws ws' : Workspace) (m : MachineRef) : Prop where
  machine : (ws'.machine m).unwarned = (ws.machine m).unwarned
  kinds : ∀ entry ∈ (ws.machine m).registry.entries, ws'.kindOf entry.2 = ws.kindOf entry.2
  ids : ∀ entry ∈ (ws.machine m).registry.entries, (ws'.entity entry.2).id = (ws.entity entry.2).id
  arcs : ∀ r ∈ ws.members m .arc, ws'.entity r = ws.entity r

namespace Agrees

variable {ws ws' : Workspace} {m : MachineRef}

/-- Numbers and warnings do not matter. -/
theorem of_bare_eq (h : ws'.bare = ws.bare) (hx : (ws.machine m).Consistent ws.kindOf ws.entities.length) :
    Agrees ws ws' m := by
  have hentity := unnumbered_of_bare_eq h
  have hkind := kindOf_of_bare_eq h
  refine ⟨unwarned_of_bare_eq h m, ?_, ?_, ?_⟩
  · intro entry _
    rw [hkind]
  · intro entry _
    rw [← Entity.id_unnumbered, hentity, Entity.id_unnumbered]
  · intro r hr
    have hr := (known_of_mem_members hx .arc r hr).2
    rw [← Entity.unnumbered_of_arc (ws.entity r) hr, ← hentity, Entity.unnumbered_of_arc]
    rw [← hkind] at hr
    exact hr

section
variable (h : Agrees ws ws' m)
include h

theorem registry_eq : (ws'.machine m).registry = (ws.machine m).registry := by
  have heq := congrArg Machine.registry h.machine
  exact heq

theorem allState_eq : (ws'.machine m).allState = (ws.machine m).allState := by
  have heq := congrArg Machine.allState h.machine
  exact heq

theorem members_eq (kind : Kind) : ws'.members m kind = ws.members m kind := by
  have heq := congrFun (congrArg Machine.members h.machine) kind
  exact heq

theorem named (hn : ws.Named m) : ws'.Named m := by
  rw [Named, h.registry_eq]
  intro entry he
  rw [h.ids entry he, hn entry he]

theorem arcsBelong (hb : ws.ArcsBelong m) : ws'.ArcsBelong m := by
  rw [ArcsBelong, h.members_eq]
  intro r hr
  rw [h.arcs r hr, hb r hr]

theorem rankOf_eq : ws'.rankOf m = ws.rankOf m := by
  funext r
  rw [rankOf, rankOf, h.allState_eq, h.members_eq]

theorem trans {ws'' : Workspace} (h' : Agrees ws' ws'' m) : Agrees ws ws'' m := by
  refine ⟨h'.machine.trans h.machine, ?_, ?_, ?_⟩
  · intro entry he
    rw [h'.kinds entry (h.registry_eq ▸ he), h.kinds entry he]
  · intro entry he
    rw [h'.ids entry (h.registry_eq ▸ he), h.ids entry he]
  · intro r hr
    rw [h'.arcs r (h.members_eq .arc ▸ hr), h.arcs r hr]

theorem symm : Agrees ws' ws m := by
  refine ⟨h.machine.symm, ?_, ?_, ?_⟩
  · rw [h.registry_eq]
    exact fun entry he => (h.kinds entry he).symm
  · rw [h.registry_eq]
    exact fun entry he => (h.ids entry he).symm
  · rw [h.members_eq]
    exact fun r hr => (h.arcs r hr).symm

theorem find_eq (kind : Kind) (id : Option String) : ws'.find m kind id = ws.find m kind id :=
  find_congr kind id (congrArg Registry.entries h.registry_eq) h.kinds

theorem arcsOn_eq (eventId : String) : ws'.arcsOn m eventId = ws.arcsOn m eventId := by
  rw [arcsOn, h.members_eq]
  apply List.filter_congr
  intro r hr
  rw [h.arcs r hr]

theorem arc_eq (eventId : String) (r : EntityRef) (hr : r ∈ ws.arcsOn m eventId) : ws'.entity r = ws.entity r :=
  h.arcs r (List.mem_filter.mp hr).1

theorem wildcardsOn_eq (eventId : String) : ws'.wildcardsOn m eventId = ws.wildcardsOn m eventId := by
  rw [wildcardsOn, h.arcsOn_eq]
  apply List.filter_congr
  intro r hr
  rw [h.arc_eq eventId r hr]

theorem keyedArcs_eq (eventId : String) :
    ws'.keyedArcs (ws.arcsOn m eventId) = ws.keyedArcs (ws.arcsOn m eventId) := by
  apply List.foldl_ext
  intro keyed r hr
  rw [h.arc_eq eventId r hr]

/-! ## Resolving -/

variable (hx : (ws.machine m).Consistent ws.kindOf ws.entities.length)

include hx in
theorem id_eq (kind : Kind) (r : EntityRef) (hr : r ∈ ws.members m kind) : (ws'.entity r).id = (ws.entity r).id := by
  obtain ⟨id, hmem, _⟩ := (mem_members_iff hx kind r).mp hr
  exact h.ids _ (Machine.mem_entries_of_added _ hmem)

include hx in
theorem derivation_eq (eventId : String) (p : EntityRef × EntityRef)
    (hp : p ∈ derivations (ws.wildcardsOn m eventId) (ws.members m .state)) :
    ws'.derivedKey p = ws.derivedKey p ∧ ws'.derivedArc p = ws.derivedArc p := by
  obtain ⟨hw, hs⟩ := (mem_derivations _ _ _).mp hp
  have harc : ws'.entity p.1 = ws.entity p.1 := h.arc_eq eventId p.1 (List.mem_filter.mp hw).1
  have hid : (ws'.entity p.2).id = (ws.entity p.2).id := h.id_eq hx .state p.2 hs
  have hderived : ∀ arc s t : Entity, s.id = t.id → arc.derivedFor s = arc.derivedFor t := by
    intro arc s t heq
    simp only [Entity.derivedFor, heq]
  rw [derivedKey, derivedArc, harc, hid, hderived _ _ _ hid]
  exact ⟨rfl, rfl⟩

include hx in
theorem candidates_eq (eventId : String) (raw : Bool) :
    ws'.candidates m eventId raw (ws.members m .state) = ws.candidates m eventId raw (ws.members m .state) := by
  rw [candidates, concreteArcs, h.arcsOn_eq, h.keyedArcs_eq, h.wildcardsOn_eq, candidates, concreteArcs]
  split
  · rfl
  · apply List.foldl_ext
    intro keyed p hp
    obtain ⟨hkey, harc⟩ := h.derivation_eq hx eventId p hp
    rw [hkey, harc]

theorem firing_eq (eventId : String) (raw : Bool) (states : List EntityRef) (k : ArcKey) (a : FiringArc)
    (ha : (k, a) ∈ ws.candidates m eventId raw states) : ws'.firing a = ws.firing a := by
  rcases candidates_cases ws m eventId raw states k a ha with ⟨r, hr, _, _, rfl⟩ | ⟨_, w, _, s, _, _, rfl, _⟩
  · exact h.arc_eq eventId r hr.mem
  · rfl

variable (hb : ws.ArcsBelong m)

theorem endpoints?_eq (e : Entity) (he : e.machine = some m) : ws'.endpoints? e = ws.endpoints? e := by
  simp only [endpoints?, findFrom, he, h.find_eq]

include hx hb in
theorem found_eq (eventId : String) (raw : Bool) :
    ws'.found m eventId raw (ws.members m .state) = ws.found m eventId raw (ws.members m .state) := by
  rw [found, h.candidates_eq hx, found]
  apply List.filter_congr
  intro a ha
  obtain ⟨⟨k, b⟩, hmem, rfl⟩ := List.mem_map.mp ha
  rw [h.firing_eq eventId raw _ k b hmem, h.endpoints?_eq _ (machine_of_mem_candidates hb eventId raw _ k b hmem)]

include hx hb in
/-- The arcs on an event are the same, and in the same order. -/
theorem arcsForEvent_eq (hx' : (ws'.machine m).Consistent ws'.kindOf ws'.entities.length) (hn : ws.Named m)
    (eventId : String) (raw : Bool) : (ws'.arcsForEvent m eventId raw).1 = (ws.arcsForEvent m eventId raw).1 := by
  rw [arcsForEvent_eq_ranked hx' (h.named hn) (h.arcsBelong hb), arcsForEvent_eq_ranked hx hn hb, h.members_eq,
    h.found_eq hx hb]
  have hrank : ∀ a ∈ ws.found m eventId raw (ws.members m .state), ws'.originRank m a = ws.originRank m a := by
    intro a ha
    obtain ⟨⟨k, b⟩, hmem, rfl⟩ := List.mem_map.mp (List.mem_filter.mp ha).1
    rw [originRank, h.firing_eq eventId raw _ k b hmem,
      h.endpoints?_eq _ (machine_of_mem_candidates hb eventId raw _ k b hmem), h.rankOf_eq, originRank]
  apply sorted_congr
  intro a ha b hb
  rw [byKey, byKey, hrank a ha, hrank b hb]

theorem firing_of_mem_arcsForEvent (eventId : String) (raw : Bool) (a : FiringArc)
    (ha : a ∈ (ws.arcsForEvent m eventId raw).1) : ws'.firing a = ws.firing a := by
  obtain ⟨⟨k, hmem⟩, _⟩ := candidate_of_mem_arcsForEvent ws m eventId raw a ha
  exact h.firing_eq eventId raw _ k a hmem

end

end Agrees

end StateMachine.Workspace
