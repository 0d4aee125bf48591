import StateMachine.Proofs.Extracted
import StateMachine.Proofs.Firing

/-!
# Which arcs an extraction keeps

Of the arcs that fire on the selected events, one after the other, the first with each id is kept. No two of them say
the same, so an arc whose id came before is lost.
-/

namespace StateMachine.Workspace

/-- The arcs leave and enter the same states on the same event and guard. -/
def SaysSame (e f : Entity) : Prop :=
  e.transition.fromId = f.transition.fromId ∧ e.transition.toId = f.transition.toId ∧
    e.transition.eventId = f.transition.eventId ∧ e.transition.guard = f.transition.guard

instance (e f : Entity) : Decidable (SaysSame e f) := inferInstanceAs (Decidable (_ ∧ _))

theorem SaysSame.of_transition_eq {e f g : Entity} (h : e.transition = f.transition) (hsame : SaysSame f g) :
    SaysSame e g := by
  rw [SaysSame, h]
  exact hsame

section
variable (ws : Workspace) (m : MachineRef) (events : List EntityRef)

theorem eq_of_saysSame (a b : FiringArc) (ha : a ∈ ws.fired m events) (hb : b ∈ ws.fired m events)
    (h : SaysSame (ws.firing a) (ws.firing b)) : a = b :=
  eq_of_mem_fired ws m events a b ha hb h.1 h.2.2.1 h.2.2.2

/-- An arc that is not the first with its id is there beside one that says something else, and one of them is
derived. -/
theorem exists_first_of_not_first (hx : (ws.machine m).Consistent ws.kindOf ws.entities.length) (hn : ws.Named m)
    (a : FiringArc) (ha : a ∈ ws.fired m events) (hlate : ¬ Assoc.IsFirst ws.nameOf (ws.fired m events) a) :
    ∃ b, Assoc.IsFirst ws.nameOf (ws.fired m events) b ∧ ws.nameOf b = ws.nameOf a ∧
      ¬ SaysSame (ws.firing b) (ws.firing a) ∧ (a.ref? = none ∨ b.ref? = none) := by
  obtain ⟨b, hfirst, hname⟩ := Assoc.exists_isFirst ws.nameOf (ws.fired m events) a ha
  have hne : b ≠ a := by
    rintro rfl
    exact hlate hfirst
  refine ⟨b, hfirst, hname, fun hsays => hne (eq_of_saysSame ws m events b a hfirst.mem ha hsays), ?_⟩
  have hdeclared : ∀ r, .declared r ∈ ws.fired m events → r ∈ ws.members m .arc := by
    intro r hr
    obtain ⟨e, _, hr⟩ := (mem_fired ws m events _).mp hr
    exact mem_arcs_of_declared ws m _ false r hr
  cases a with
  | derived e => exact Or.inl rfl
  | declared r =>
    cases b with
    | derived e => exact Or.inr rfl
    | declared s =>
      -- The registry gives out no id twice, so that two declared arcs with one id are one arc.
      have hs := hdeclared s hfirst.mem
      exact absurd (congrArg _ (eq_of_id_eq hx hn .arc .arc s r hs (hdeclared r ha) hname)) hne

end

/-- The new machine has an arc that says what this one says exactly if no arc before it has its id. It then says the
same as all with its id, or it is lost to an arc that says something else, and one of the two is derived. -/
theorem held_iff_isFirst (ws ws' later : Workspace) (m clone : MachineRef) (specifiers : List String)
    (events : List EntityRef) (event : EntityRef) (a : FiringArc) (hreach : ws.Reachable)
    (hselected : ws.matchingEvents m specifiers = .ok events)
    (hextract : ws.extract m specifiers = (ws', .ok clone)) (hlater : later.bare = ws'.bare) (he : event ∈ events)
    (ha : a ∈ (ws.arcsForEvent m (ws.entity event).id false).1) :
    ((∃ r ∈ later.members clone .arc, SaysSame (later.entity r) (ws.firing a)) ↔
      Assoc.IsFirst ws.nameOf (ws.fired m events) a) ∧
    (ws.NamesTell m events → Assoc.IsFirst ws.nameOf (ws.fired m events) a) ∧
    (ws.Named m → ¬ Assoc.IsFirst ws.nameOf (ws.fired m events) a →
      ∃ b, Assoc.IsFirst ws.nameOf (ws.fired m events) b ∧ ws.nameOf b = ws.nameOf a ∧
        ¬ SaysSame (ws.firing b) (ws.firing a) ∧ (a.ref? = none ∨ b.ref? = none)) := by
  have hmember := (matchingEvents_sublist ws m specifiers events hselected).subset he
  have hm := lt_of_mem_members ws m .event event hmember
  have hc := hreach.consistent
  have hfired : a ∈ ws.fired m events := (mem_fired ws m events a).mpr ⟨event, he, ha⟩
  obtain ⟨touched, _, hextracted⟩ := extracted_of_extract hc hm hselected hextract hlater
  have hcopies := hextracted.transitions_eq
  refine ⟨⟨?_, ?_⟩, fun hsame => isFirst_of_namesTell hsame a hfired,
    fun hn => exists_first_of_not_first ws m events (hc.machine m hm) hn a hfired⟩
  · rintro ⟨r, hr, hsays⟩
    have hcopied : (later.entity r).transition ∈ (ws.collectArcs m events).1.map fun b => (ws.firing b).transition := by
      rw [← hcopies]
      exact List.mem_map_of_mem hr
    obtain ⟨b, hb, heq⟩ := List.mem_map.mp hcopied
    have hfirst := (mem_collectArcs_iff ws m events b).mp hb
    rwa [← eq_of_saysSame ws m events b a hfirst.mem hfired (.of_transition_eq heq hsays)]
  · intro hfirst
    have hkept : (ws.firing a).transition ∈ (later.members clone .arc).map fun r => (later.entity r).transition := by
      rw [hcopies]
      exact List.mem_map_of_mem ((mem_collectArcs_iff ws m events a).mpr hfirst)
    obtain ⟨r, hr, heq⟩ := List.mem_map.mp hkept
    exact ⟨r, hr, .of_transition_eq heq ⟨rfl, rfl, rfl, rfl⟩⟩

/-- A machine with an arc that has the id of the arc to be derived for its second state. -/
def shadowed : Workspace := filled "m"
  [{ id := "s", detail := .state [] [] none }, { id := "t", detail := .state [] [] none },
   { id := "go", detail := .event none },
   { id := "w", detail := .arc { fromId := some "#ALL", toId := some "s", eventId := some "go" } },
   { id := "w_t", detail := .arc { fromId := some "s", toId := some "t", eventId := some "go" } }]

theorem extract_shadowed : shadowed.extract ⟨0⟩ [] = ((shadowed.extract ⟨0⟩ []).1, .ok ⟨1⟩) :=
  extract_of_toOption shadowed ⟨0⟩ ⟨1⟩ [] (by decide +kernel)

theorem held_iff_isFirst_shadowed :
    ⟨3⟩ ∈ shadowed.members ⟨0⟩ .event ∧ .declared ⟨5⟩ ∈ (shadowed.arcsForEvent ⟨0⟩ (shadowed.entity ⟨3⟩).id false).1 ∧
      Assoc.IsFirst shadowed.nameOf (shadowed.fired ⟨0⟩ (shadowed.members ⟨0⟩ .event)) (.declared ⟨5⟩) := by
  refine ⟨by decide +kernel, by decide +kernel, ?_⟩
  exact (held_iff_isFirst shadowed _ _ ⟨0⟩ ⟨1⟩ [] _ ⟨3⟩ (.declared ⟨5⟩) (reachable_filled _ _) rfl extract_shadowed rfl
    (by decide +kernel) (by decide +kernel)).1.mp (by decide +kernel)

/-- Even in a valid machine whose arcs and names are in order, an arc can be lost. -/
theorem not_held_shadowed :
    ¬ ∀ (ws ws' : Workspace) (m clone : MachineRef) (specifiers : List String) (events : List EntityRef)
        (event : EntityRef) (a : FiringArc), ws.Reachable → (ws.check m).1.isValid = true → ws.ArcsBelong m →
      ws.Named m → ws.matchingEvents m specifiers = .ok events → ws.extract m specifiers = (ws', .ok clone) →
      event ∈ events → a ∈ (ws.arcsForEvent m (ws.entity event).id false).1 →
        ∃ r ∈ ws'.members clone .arc, SaysSame (ws'.entity r) (ws.firing a) := by
  intro h
  have hall : ∀ a ∈ (shadowed.arcsForEvent ⟨0⟩ (shadowed.entity ⟨3⟩).id false).1,
      ∃ r ∈ (shadowed.extract ⟨0⟩ []).1.members ⟨1⟩ .arc,
        SaysSame ((shadowed.extract ⟨0⟩ []).1.entity r) (shadowed.firing a) := fun a ha =>
    h shadowed _ ⟨0⟩ ⟨1⟩ [] _ ⟨3⟩ a (reachable_filled _ _) (by decide +kernel) (by decide +kernel) (by decide +kernel)
      rfl extract_shadowed (by decide +kernel) ha
  exact absurd hall (by decide +kernel)

end StateMachine.Workspace
