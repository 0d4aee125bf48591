import StateMachine.Proofs.Handing
import StateMachine.Proofs.Inheriting
import StateMachine.Proofs.Simulation

/-!
# Lookups after an extraction

Entities that were handed over, and copies of arcs, look their classes and actions up in the new machine. They find
there what they found before, unless the new machine gives one of their ids another meaning.
-/

namespace StateMachine

/-- A derived arc has the attributes, classes and actions of its arc. -/
theorem Entity.links_derivedFor (arc s : Entity) (h : arc.kind = .arc) : (arc.derivedFor s).links = arc.links := by
  cases hd : arc.detail with
  | arc t => simp [links, derivedFor, transition, entryIds, exitIds, hd]
  | _ => simp [kind, Detail.kind, hd] at h

namespace Workspace

theorem find_of_free (ws : Workspace) (m : MachineRef) (kind : Kind) (id : String) (h : id ∉ ws.takenIds m) :
    ws.find m kind (some id) = .ok none := by
  rw [find, lookup, Registry.lookup_eq_none_iff]
  rintro i ⟨rfl⟩
  exact (Assoc.lookup_eq_none_iff_keys _ _).mpr h

/-! ## Ids that keep their meaning -/

/-- The id names an entity of the kind, or nothing: neither is it registered, nor is it the id of an arc of the new
machine. -/
def Settled (ws later : Workspace) (m clone : MachineRef) (kind : Kind) (id : String) : Prop :=
  id ∈ ws.idsOf (ws.members m kind) ∨
    (id ∉ ws.takenIds m ∧ id ∉ later.idsOf (later.members clone .arc))

instance (ws later : Workspace) (m clone : MachineRef) (kind : Kind) (id : String) :
    Decidable (ws.Settled later m clone kind id) :=
  inferInstanceAs (Decidable (id ∈ ws.idsOf (ws.members m kind) ∨
    (id ∉ ws.takenIds m ∧ id ∉ later.idsOf (later.members clone .arc))))

/-- All ids under which an entity looks for classes and actions are settled. -/
structure SettledLinks (ws later : Workspace) (m clone : MachineRef) (links : Links) : Prop where
  classes : ∀ id ∈ links.classIds, ws.Settled later m clone .bundle id
  actions : ∀ id ∈ links.actionIds, ws.Settled later m clone .action id

instance (ws later : Workspace) (m clone : MachineRef) (links : Links) :
    Decidable (ws.SettledLinks later m clone links) :=
  decidable_of_iff ((∀ id ∈ links.classIds, ws.Settled later m clone .bundle id) ∧
      ∀ id ∈ links.actionIds, ws.Settled later m clone .action id)
    ⟨fun h => ⟨h.1, h.2⟩, fun h => ⟨h.classes, h.actions⟩⟩

/-- An entity of the old machine, and one of either machine that reads the same, as its links are settled. -/
structure Matched (ws later : Workspace) (m clone : MachineRef) (r r' : EntityRef) : Prop where
  links : (later.entity r').links = (ws.entity r).links
  settled : ws.SettledLinks later m clone (ws.entity r).links
  before : (ws.entity r).machine = some m
  after : (later.entity r').machine = some m ∨ (later.entity r').machine = some clone

namespace Extracted

section
variable {ws later : Workspace} {m clone : MachineRef} {events touched : List EntityRef}
  (h : Extracted ws later m clone events touched)
  (hx : (ws.machine m).Consistent ws.kindOf ws.entities.length) (hn : ws.Named m) (hb : ws.ArcsBelong m)
  (hevents : events ⊆ ws.members m .event)
include h hx hn hb hevents

omit hx in
/-- But for its arcs, the new machine has only members of the old one. -/
theorem members_subset (kind : Kind) (hkind : kind ≠ .arc) : later.members clone kind ⊆ ws.members m kind := by
  cases kind with
  | plain => rw [members_plain h.consistent]; exact List.nil_subset _
  | state => exact (h.states_sublist hn hb).subset
  | event => rw [h.events]; exact hevents
  | arc => exact absurd rfl hkind
  | action => rw [h.actions]; exact List.Subset.refl _
  | bundle => rw [h.bundles]; exact List.Subset.refl _

/-- What is registered in the new machine is registered in the old one, or it is an arc. -/
theorem mem_takenIds (id : String) (hid : id ∈ later.takenIds clone) :
    id ∈ ws.takenIds m ∨ id ∈ later.idsOf (later.members clone .arc) := by
  obtain ⟨⟨_, r⟩, hentry, rfl⟩ := List.mem_map.mp hid
  obtain ⟨hr, rfl⟩ := (mem_entries_iff h.consistent h.named _ r).mp hentry
  rcases hr with rfl | ⟨kind, hr⟩
  · rw [id_allState h.consistent h.named]
    exact Or.inl (List.mem_map.mpr ⟨_, hx.allState_mem, rfl⟩)
  · by_cases hkind : kind = .arc
    · exact Or.inr (List.mem_map.mpr ⟨r, hkind ▸ hr, rfl⟩)
    · have hold := h.members_subset hn hb hevents kind hkind hr
      rw [h.id_eq r (known_of_mem_members hx kind r hold).1]
      exact Or.inl (List.mem_map_of_mem ((mem_entries_iff hx hn _ r).mpr ⟨Or.inr ⟨kind, hold⟩, rfl⟩))

/-- Both machines find the same under a settled id. -/
theorem find_settled (kind : Kind) (hkind : kind = .bundle ∨ kind = .action) (id : String)
    (hid : ws.Settled later m clone kind id) : later.find clone kind (some id) = ws.find m kind (some id) := by
  have hmembers : later.members clone kind = ws.members m kind := by
    rcases hkind with rfl | rfl
    · exact h.bundles
    · exact h.actions
  have hstate : kind ≠ .state := by
    rcases hkind with rfl | rfl <;> decide
  rcases hid with hid | ⟨hfree, hcopies⟩
  · obtain ⟨r, hr, rfl⟩ := List.mem_map.mp hid
    have hsame := h.id_eq r (known_of_mem_members hx kind r hr).1
    rw [(findMember_iff hx hn kind hstate _ r).mpr ⟨hr, rfl⟩,
      (findMember_iff h.consistent h.named kind hstate _ r).mpr ⟨hmembers ▸ hr, congrArg some hsame.symm⟩]
  · rw [find_of_free ws m kind id hfree, find_of_free later clone kind id]
    exact fun htaken => (h.mem_takenIds hx hn hb hevents id htaken).elim hfree hcopies

/-- An entity of the old machine finds under a settled id what an entity of either machine finds afterwards. -/
theorem findFrom_settled {e e' : Entity} (hbefore : e.machine = some m)
    (hafter : e'.machine = some m ∨ e'.machine = some clone) (kind : Kind) (hkind : kind = .bundle ∨ kind = .action)
    (id : String) (hid : ws.Settled later m clone kind id) :
    later.findFrom e' kind (some id) = ws.findFrom e kind (some id) := by
  rw [findFrom, findFrom, hbefore]
  rcases hafter with hafter | hafter
  · rw [hafter]
    exact h.source.find_eq kind (some id)
  · rw [hafter]
    exact h.find_settled hx hn hb hevents kind hkind id hid

/-! ## Entities that answer alike -/

section
variable {r r' : EntityRef} (hmatched : ws.Matched later m clone r r')
include hmatched

theorem findFrom_matched (kind : Kind) (hkind : kind = .bundle ∨ kind = .action) (id : String)
    (hid : ws.Settled later m clone kind id) :
    later.findFrom (later.entity r') kind (some id) = ws.findFrom (ws.entity r) kind (some id) :=
  h.findFrom_settled hx hn hb hevents hmatched.before hmatched.after kind hkind id hid

theorem findsAs_matched : FindsAs ws r later r' := by
  refine findsAs_of_links hmatched.links (fun id hid => ?_) fun id hid => ?_
  · exact h.findFrom_matched hx hn hb hevents hmatched .bundle (Or.inl rfl) id (hmatched.settled.classes id hid)
  · exact h.findFrom_matched hx hn hb hevents hmatched .action (Or.inr rfl) id (hmatched.settled.actions id hid)

omit h hb hevents in
theorem bundle_of_classesOf (classes : List EntityRef) (hclasses : ws.classesOf r = .ok classes) (c : EntityRef)
    (hc : c ∈ classes) : c ∈ ws.members m .bundle := by
  obtain ⟨id, _, hfound⟩ := mem_of_findAll hclasses c hc
  rw [findFrom, hmatched.before] at hfound
  exact ((findMember_iff hx hn .bundle (by decide) _ c).mp hfound).1

end

/-- If the classes are matched, all that is matched answers alike. -/
theorem answers_matched (hbundles : ∀ c ∈ ws.members m .bundle, ws.Matched later m clone c c)
    (hgrown : ws.entities.length ≤ later.entities.length) {r r' : EntityRef}
    (hmatched : ws.Matched later m clone r r') (hr : r.index < ws.entities.length)
    (hsame : SameOn (· ∈ ws.members m .bundle) [r] [r']) : Answers ws r later r' := by
  have halike : Alike ws later (· ∈ ws.members m .bundle) :=
    ⟨fun c hc => (known_of_mem_members hx .bundle c hc).1, fun c hc => congrArg Links.attrs (hbundles c hc).links,
      fun c hc => (h.findsAs_matched hx hn hb hevents (hbundles c hc)).classes,
      fun c classes hc => bundle_of_classesOf hx hn (hbundles c hc) classes⟩
  exact halike.answers hr hgrown hmatched.links (h.findsAs_matched hx hn hb hevents hmatched)
    (bundle_of_classesOf hx hn hmatched) hsame

end

end Extracted

/-! ## Arcs and their copies -/

/-- The declared arc that an arc that fires comes from: itself, or the one that it is derived from for a state. -/
def StemsFrom (ws : Workspace) (m : MachineRef) (w : EntityRef) : FiringArc → Prop
  | .declared r => r = w
  | .derived e => (ws.entity w).leavesAll = true ∧ ∃ s ∈ ws.members m .state, e = (ws.entity w).derivedFor (ws.entity s)

theorem stemsFrom_of_mem_arcsForEvent {ws : Workspace} {m : MachineRef}
    (hx : (ws.machine m).Consistent ws.kindOf ws.entities.length) (hn : ws.Named m) (eventId : String) (a : FiringArc)
    (h : a ∈ (ws.arcsForEvent m eventId false).1) : ∃ w ∈ ws.members m .arc, ws.StemsFrom m w a := by
  obtain ⟨⟨k, hmem⟩, _⟩ := candidate_of_mem_arcsForEvent ws m _ false a h
  rw [states_eq_members hx hn] at hmem
  rcases candidates_cases ws m _ false _ k a hmem with ⟨r, hr, _, _, rfl⟩ | ⟨_, w, hw, s, hs, _, rfl, _⟩
  · exact ⟨r, (List.mem_filter.mp hr.mem).1, rfl⟩
  · obtain ⟨hon, hleaves⟩ := List.mem_filter.mp hw
    exact ⟨w, (List.mem_filter.mp hon).1, hleaves, s, hs, rfl⟩

theorem exists_stemsFrom {ws : Workspace} {m : MachineRef} (hx : (ws.machine m).Consistent ws.kindOf ws.entities.length)
    (hn : ws.Named m) (events : List EntityRef) (a : FiringArc) (h : a ∈ (ws.collectArcs m events).1) :
    ∃ w ∈ ws.members m .arc, ws.StemsFrom m w a := by
  obtain ⟨event, _, hfires⟩ := mem_collectArcs ws m events a h
  exact stemsFrom_of_mem_arcsForEvent hx hn _ a hfires

theorem links_taken (ws : Workspace) (m clone : MachineRef) (w : EntityRef) (a : FiringArc) (hw : ws.kindOf w = .arc)
    (h : ws.StemsFrom m w a) : (ws.taken clone a).links = (ws.entity w).links := by
  cases a with
  | declared r =>
    obtain rfl := h
    rfl
  | derived e =>
    obtain ⟨_, s, _, rfl⟩ := h
    exact Entity.links_derivedFor (ws.entity w) (ws.entity s) hw

/-! ## After an extraction -/

/-- Handed over or not, an entity whose links are settled is matched with itself. -/
theorem Handed.matched {ws ws' : Workspace} {m : MachineRef} {handed : List EntityRef} (h : Handed ws ws' m handed)
    (r : EntityRef) (hr : r.index < ws.entities.length) (hown : (ws.entity r).machine = some m)
    (hsettled : ws.SettledLinks ws' m ws.nextMachine (ws.entity r).links) : ws.Matched ws' m ws.nextMachine r r := by
  refine ⟨h.same Entity.links Entity.links_unnumbered r hr, hsettled, hown, ?_⟩
  rw [h.owner r hr, hown]
  split
  · exact Or.inr rfl
  · exact Or.inl rfl

/-- If all that a machine registers belongs to it and all ids in it are settled, an extraction changes no lookup: its
entities answer as before, and copies of arcs answer as the arcs that they come from. -/
theorem lookups_extract (ws ws' : Workspace) (m clone : MachineRef) (specifiers : List String) (hreach : ws.Reachable)
    (hm : m.index < ws.machines.length) (hn : ws.Named m) (hown : ∀ r ∈ ws.registered m, (ws.entity r).machine = some m)
    (hsettled : ∀ r ∈ ws.registered m, ws.SettledLinks ws' m clone (ws.entity r).links)
    (hextract : ws.extract m specifiers = (ws', .ok clone)) :
    (∀ r ∈ ws.registered m, Answers ws r ws' r) ∧
    ∃ events, ws.matchingEvents m specifiers = .ok events ∧
      ∀ r ∈ ws'.members clone .arc, ∃ a ∈ (ws.collectArcs m events).1, ws'.entity r = ws.taken clone a ∧
        (∃ w ∈ ws.members m .arc, ws.StemsFrom m w a) ∧
        ∀ w ∈ ws.members m .arc, ws.StemsFrom m w a → Answers ws w ws' r := by
  have hc := hreach.consistent
  have hx := hc.machine m hm
  have hregistered : ∀ kind, ∀ r ∈ ws.members m kind, r ∈ ws.registered m := fun kind r hr =>
    List.mem_map.mpr ⟨_, (mem_entries_iff hx hn _ r).mpr ⟨Or.inr ⟨kind, hr⟩, rfl⟩, rfl⟩
  have hb : ws.ArcsBelong m := fun r hr => hown r (hregistered .arc r hr)
  obtain ⟨events, hselected⟩ := selected_of_extract hextract
  have hevents := (matchingEvents_sublist ws m specifiers events hselected).subset
  obtain ⟨touched, htouched, h⟩ := extracted_of_extract hc hm hselected hextract rfl
  obtain ⟨rfl, hhanded, hfresh⟩ := handed_of_extract specifiers hc hm hselected hextract
  have hmatched : ∀ r ∈ ws.registered m, ws.Matched ws' m ws.nextMachine r r := fun r hr =>
    hhanded.matched r (known_of_mem_registered hx r hr) (hown r hr) (hsettled r hr)
  have hanswers : ∀ r r', ws.Matched ws' m ws.nextMachine r r' → r.index < ws.entities.length →
      SameOn (· ∈ ws.members m .bundle) [r] [r'] → Answers ws r ws' r' := fun _ _ =>
    h.answers_matched hx hn hb hevents (fun c hc => hmatched c (hregistered .bundle c hc)) hhanded.grown
  refine ⟨fun r hr => hanswers r r (hmatched r hr) (known_of_mem_registered hx r hr) fun _ _ => Iff.rfl,
    events, hselected, fun r hr => ?_⟩
  obtain ⟨a, ha, hcopy⟩ := h.exists_taken r hr
  refine ⟨a, ha, hcopy, exists_stemsFrom hx hn events a ha, fun w hw hstems => ?_⟩
  obtain ⟨hlt, hkind⟩ := known_of_mem_members hx .arc w hw
  have hsource := hmatched w (hregistered .arc w hw)
  have hlinks : (ws'.entity r).links = (ws.entity w).links := by
    rw [hcopy]
    exact links_taken ws m ws.nextMachine w a hkind hstems
  refine hanswers w r ⟨hlinks, hsource.settled, hsource.before, Or.inr (h.belong r hr)⟩ hlt fun c hc => ?_
  -- Neither arc is a class.
  obtain ⟨hold, hbundle⟩ := known_of_mem_members hx .bundle c hc
  rw [List.mem_singleton, List.mem_singleton]
  refine iff_of_false (fun heq => ?_) (fun heq => ?_)
  · exact absurd (hfresh r hr) (Nat.not_le.mpr (heq ▸ hold))
  · rw [heq, hkind] at hbundle
    cases hbundle

/-- A machine with two classes that name each other, one of which names a third that is not there. -/
def circular : Workspace := filled "m"
  [{ id := "base", attrs := [(.text "lang", .text "c")], classIds := ["k"], detail := .bundle },
   { id := "k", classIds := ["gone", "base"], detail := .bundle }, { id := "act", detail := .action none },
   { id := "s", classIds := ["k"], detail := .state ["act"] [] none }, { id := "go", detail := .event none },
   { id := "w", classIds := ["k"],
     detail := .arc { fromId := some "#ALL", toId := some "#ALL", eventId := some "go", handlerIds := ["act"] } }]

theorem lookups_extract_circular :
    let ws' := (circular.extract ⟨0⟩ []).1
    circular.Named ⟨0⟩ ∧ (∀ r ∈ circular.registered ⟨0⟩, (circular.entity r).machine = some ⟨0⟩) ∧
      (∀ r ∈ circular.registered ⟨0⟩, circular.SettledLinks ws' ⟨0⟩ ⟨1⟩ (circular.entity r).links) ∧
      (ws'.entity ⟨4⟩).machine = some ⟨1⟩ ∧ Answers circular ⟨4⟩ ws' ⟨4⟩ ∧
      ∃ r ∈ ws'.members ⟨1⟩ .arc, Answers circular ⟨6⟩ ws' r := by
  intro ws'
  have hextract : circular.extract ⟨0⟩ [] = (ws', .ok ⟨1⟩) :=
    extract_of_toOption circular ⟨0⟩ ⟨1⟩ [] (by decide +kernel)
  have hsettled : ∀ r ∈ circular.registered ⟨0⟩, circular.SettledLinks ws' ⟨0⟩ ⟨1⟩ (circular.entity r).links := by
    decide +kernel
  have hown : ∀ r ∈ circular.registered ⟨0⟩, (circular.entity r).machine = some ⟨0⟩ := by decide +kernel
  obtain ⟨hold, events, _, hnew⟩ := lookups_extract circular ws' ⟨0⟩ ⟨1⟩ [] (reachable_filled _ _) (by decide +kernel)
    (by decide +kernel) hown hsettled hextract
  refine ⟨by decide +kernel, hown, hsettled, by decide +kernel, hold ⟨4⟩ (by decide +kernel), ?_⟩
  have harc : (⟨8⟩ : EntityRef) ∈ ws'.members ⟨1⟩ .arc := by decide +kernel
  obtain ⟨a, _, _, ⟨w, hw, hstems⟩, hanswers⟩ := hnew ⟨8⟩ harc
  have honly : circular.members ⟨0⟩ .arc = [⟨6⟩] := by decide +kernel
  rw [honly] at hw hanswers
  obtain rfl := List.mem_singleton.mp hw
  exact ⟨⟨8⟩, harc, hanswers ⟨6⟩ hw hstems⟩

end Workspace

end StateMachine
