import Mathlib.Data.List.Basic
import StateMachine.Proofs.Operations
import StateMachine.Proofs.Selecting
import StateMachine.Proofs.Wrapping

/-!
# What specifiers select

A list of specifiers counts as a set. It has inclusions, and exclusions, which name a target after a mark; an event is
selected by them as `Chooses` says, whatever the order in which they are given. A type that does not compile makes
every selection fail that specifies something, with an error that names the event, unless the type counts beyond a limit.
-/

namespace StateMachine

namespace Specifiers

/-- The specifier excludes a name. -/
def IsExclusion (specifier : String) : Prop := ∃ name, specifier = "!" ++ name

/-- A set of specifiers selects what has this pattern: the pattern is universal, or it matches an inclusion, if there
is one, and no name that is excluded. -/
def Chooses (specifiers : List String) (p : CompiledPattern) : Prop :=
  (p.matchesAll "#ALL" = true ∨ p.matchesAll "#ANY" = true) ∨
    ((∃ s ∈ specifiers, ¬ IsExclusion s ∧ p.matchesAll s = true) ∨ ∀ s ∈ specifiers, IsExclusion s) ∧
      ∀ name, "!" ++ name ∈ specifiers → p.matchesAll name = false

theorem excluded?_eq_some_iff (specifier name : String) : excluded? specifier = some name ↔ specifier = "!" ++ name := by
  have hchars : specifier = "!" ++ name ↔ specifier.toList = '!' :: name.toList := by
    rw [← String.toList_inj, String.toList_append]
    rfl
  rw [hchars, excluded?]
  split
  case h_1 rest heq => rw [heq, Option.some.injEq, List.cons.injEq, ← String.toList_inj, String.toList_ofList]; simp
  case h_2 hnone => exact iff_of_false (fun h => nomatch h) (hnone name.toList)

theorem excluded?_eq_none_iff (specifier : String) : excluded? specifier = none ↔ ¬ IsExclusion specifier := by
  simp only [Option.eq_none_iff_forall_ne_some, ne_eq, excluded?_eq_some_iff, IsExclusion, not_exists]

theorem mem_includes_iff (specifiers : List String) (s : String) :
    s ∈ (split specifiers).includes ↔ s ∈ specifiers ∧ ¬ IsExclusion s := by
  rw [split, List.mem_filter, Option.isNone_iff_eq_none, excluded?_eq_none_iff]

theorem mem_excludes_iff (specifiers : List String) (name : String) :
    name ∈ (split specifiers).excludes ↔ "!" ++ name ∈ specifiers := by
  simp only [split, List.mem_filterMap, excluded?_eq_some_iff]
  exact ⟨fun ⟨s, hs, heq⟩ => heq ▸ hs, fun h => ⟨_, h, rfl⟩⟩

theorem isSelected_iff (specifiers : List String) (p : CompiledPattern) :
    p.isSelected (split specifiers) = true ↔ Chooses specifiers p := by
  have hnone : (split specifiers).includes.isEmpty = true ↔ ∀ s ∈ specifiers, IsExclusion s := by
    simp only [List.isEmpty_iff, List.eq_nil_iff_forall_not_mem, mem_includes_iff, not_and, not_not]
  have hsome : (split specifiers).includes.any p.matchesAll = true ↔
      ∃ s ∈ specifiers, ¬ IsExclusion s ∧ p.matchesAll s = true := by
    simp only [List.any_eq_true, mem_includes_iff, and_assoc]
  have hexcluded : (!(split specifiers).excludes.any p.matchesAll) = true ↔
      ∀ name, "!" ++ name ∈ specifiers → p.matchesAll name = false := by
    simp only [Bool.not_eq_true', List.any_eq_false, mem_excludes_iff, Bool.not_eq_true]
  rw [CompiledPattern.isSelected, Bool.or_eq_true, Bool.and_eq_true, Bool.or_eq_true, hnone, hsome, hexcluded,
    or_comm (a := ∀ s ∈ specifiers, IsExclusion s), Chooses, universalTypes]
  simp

section
variable {specifiers others : List String} {p : CompiledPattern}

/-- Neither order nor repetition matters. -/
theorem chooses_congr (h : ∀ s, s ∈ others ↔ s ∈ specifiers) : Chooses others p ↔ Chooses specifiers p := by
  simp only [Chooses, h]

theorem Chooses.of_exclusion (name : String) (h : Chooses (("!" ++ name) :: specifiers) p) : Chooses specifiers p := by
  refine h.imp_right fun ⟨hincluded, hexcluded⟩ => ⟨hincluded.imp ?_ ?_, ?_⟩
  · rintro ⟨s, hs, hinclusion, hmatches⟩
    rcases List.mem_cons.mp hs with rfl | hs
    · exact absurd ⟨name, rfl⟩ hinclusion
    · exact ⟨s, hs, hinclusion, hmatches⟩
  · exact fun hall s hs => hall s (List.mem_cons_of_mem _ hs)
  · exact fun excluded hmem => hexcluded excluded (List.mem_cons_of_mem _ hmem)

theorem Chooses.with_inclusion {s : String} (hs : ¬ IsExclusion s) (hsome : ∃ i ∈ specifiers, ¬ IsExclusion i)
    (h : Chooses specifiers p) : Chooses (s :: specifiers) p := by
  refine h.imp_right fun ⟨hincluded, hexcluded⟩ => ⟨Or.inl ?_, ?_⟩
  · rcases hincluded with ⟨i, hi, hinclusion, hmatches⟩ | hall
    · exact ⟨i, List.mem_cons_of_mem _ hi, hinclusion, hmatches⟩
    · obtain ⟨i, hi, hinclusion⟩ := hsome
      exact absurd (hall i hi) hinclusion
  · intro name hmem
    rcases List.mem_cons.mp hmem with heq | hmem
    · exact absurd ⟨name, heq.symm⟩ hs
    · exact hexcluded name hmem

/-- Inclusions and exclusions select what both select separately. -/
theorem chooses_append_iff {inclusions exclusions : List String} (hin : ∀ s ∈ inclusions, ¬ IsExclusion s)
    (hex : ∀ s ∈ exclusions, IsExclusion s) :
    Chooses (inclusions ++ exclusions) p ↔ Chooses inclusions p ∧ Chooses exclusions p := by
  have hsome : (∃ s ∈ inclusions ++ exclusions, ¬ IsExclusion s ∧ p.matchesAll s = true) ↔
      ∃ s ∈ inclusions, ¬ IsExclusion s ∧ p.matchesAll s = true := by
    constructor
    · rintro ⟨s, hs, hinclusion, hmatches⟩
      exact ⟨s, (List.mem_append.mp hs).resolve_right fun h => hinclusion (hex s h), hinclusion, hmatches⟩
    · rintro ⟨s, hs, h⟩
      exact ⟨s, List.mem_append_left _ hs, h⟩
  have hall : (∀ s ∈ inclusions ++ exclusions, IsExclusion s) ↔ ∀ s ∈ inclusions, IsExclusion s := by
    rw [List.forall_mem_append]
    exact and_iff_left hex
  have hnames : ∀ name, "!" ++ name ∈ inclusions ++ exclusions ↔ "!" ++ name ∈ exclusions := fun name => by
    rw [List.mem_append]
    exact or_iff_right fun h => hin _ h ⟨name, rfl⟩
  have hfree : ∀ name, "!" ++ name ∈ inclusions → p.matchesAll name = false := fun name h =>
    absurd ⟨name, rfl⟩ (hin _ h)
  simp only [Chooses, hsome, hall, hnames, iff_true_intro hex, iff_true_intro hfree, or_true, and_true, true_and]
  exact or_and_left

end

end Specifiers

instance (specifiers : List String) (p : CompiledPattern) : Decidable (Specifiers.Chooses specifiers p) :=
  decidable_of_iff _ (Specifiers.isSelected_iff specifiers p)

/-- What was compiled is a pattern, and specifiers choose it. -/
def Specifiers.Takes {ε : Type} (specifiers : List String) (compiled : Except ε CompiledPattern) : Prop :=
  ∃ p, compiled = .ok p ∧ Chooses specifiers p

theorem Specifiers.takes_ok_iff (ε : Type) (specifiers : List String) (p : CompiledPattern) :
    Takes specifiers (.ok p : Except ε CompiledPattern) ↔ Chooses specifiers p :=
  ⟨fun ⟨_, hq, hchosen⟩ => Except.ok.inj hq ▸ hchosen, fun hchosen => ⟨p, rfl, hchosen⟩⟩

theorem Specifiers.not_takes_error {ε : Type} (specifiers : List String) (e : ε) :
    ¬ Takes specifiers (.error e : Except ε CompiledPattern) := fun ⟨_, hp, _⟩ => nomatch hp

instance {ε : Type} (specifiers : List String) (compiled : Except ε CompiledPattern) :
    Decidable (Specifiers.Takes specifiers compiled) :=
  match compiled with
  | .error e => isFalse (Specifiers.not_takes_error specifiers e)
  | .ok p => decidable_of_iff _ (Specifiers.takes_ok_iff ε specifiers p).symm

namespace Workspace

open Specifiers

/-- The type of an event as a pattern, as events are selected by it. -/
def patternOf (ws : Workspace) (r : EntityRef) : Except Fault CompiledPattern :=
  compileEventType (ws.entity r).id (ws.entity r).eventType

/-- The type of an event as a pattern by itself. -/
def ownPattern (ws : Workspace) (r : EntityRef) : Except Pattern.Failure CompiledPattern :=
  CompiledPattern.compile ((ws.entity r).eventType.getD "")

/-- The events of a machine that specifiers select, in the order of their addition. -/
def selection (ws : Workspace) (m : MachineRef) (specifiers : List String) : List EntityRef :=
  (ws.members m .event).filter fun r => Takes specifiers (ws.patternOf r)

/-- All events of the machine have types that are patterns. -/
def Patterned (ws : Workspace) (m : MachineRef) : Prop := ∀ r ∈ ws.members m .event, ∃ p, ws.patternOf r = .ok p

section
variable {ws : Workspace} {m : MachineRef} {specifiers others : List String}

theorem mem_selection_iff (r : EntityRef) :
    r ∈ ws.selection m specifiers ↔ r ∈ ws.members m .event ∧ Takes specifiers (ws.patternOf r) := by
  rw [selection, List.mem_filter, decide_eq_true_iff]

theorem selection_sublist (h : ∀ p, Chooses specifiers p → Chooses others p) :
    (ws.selection m specifiers).Sublist (ws.selection m others) := by
  refine List.monotone_filter_right _ fun r hr => ?_
  obtain ⟨p, hp, hchosen⟩ := of_decide_eq_true hr
  exact decide_eq_true ⟨p, hp, h p hchosen⟩

/-! ## Selections that specify something -/

theorem matchingEvents_of_ne_nil (h : specifiers ≠ []) : ws.matchingEvents m specifiers =
    (ws.members m .event).filterM fun r => (ws.patternOf r).map fun p => p.isSelected (.split specifiers) := by
  rw [matchingEvents, if_neg (by simpa using h)]
  rfl

theorem exists_map_eq_ok_iff (r : EntityRef) (f : CompiledPattern → Bool) :
    (∃ keep, (ws.patternOf r).map f = .ok keep) ↔ ∃ p, ws.patternOf r = .ok p := by
  cases ws.patternOf r with
  | error fault => exact iff_of_false (fun ⟨_, h⟩ => nomatch h) fun ⟨_, h⟩ => nomatch h
  | ok p => exact iff_of_true ⟨_, rfl⟩ ⟨_, rfl⟩

theorem matchingEvents_eq_ok_iff (h : specifiers ≠ []) (events : List EntityRef) :
    ws.matchingEvents m specifiers = .ok events ↔ ws.Patterned m ∧ events = ws.selection m specifiers := by
  simp only [matchingEvents_of_ne_nil h, filterM_eq_ok_iff, exists_map_eq_ok_iff]
  refine and_congr_right fun hall => ?_
  have hsame : (ws.members m .event).filter (saysYes fun r => (ws.patternOf r).map fun p =>
      p.isSelected (.split specifiers)) = ws.selection m specifiers := by
    refine List.filter_congr fun r hr => ?_
    obtain ⟨p, hp⟩ := hall r hr
    rw [saysYes, hp, Bool.eq_iff_iff, decide_eq_true_iff, takes_ok_iff, ← isSelected_iff]
    rfl
  rw [hsame]

theorem matchingEvents_eq_error_iff (h : specifiers ≠ []) (fault : Fault) :
    ws.matchingEvents m specifiers = .error fault ↔ ∃ before r after, ws.members m .event = before ++ r :: after ∧
      (∀ s ∈ before, ∃ p, ws.patternOf s = .ok p) ∧ ws.patternOf r = .error fault := by
  have herror : ∀ r (f : CompiledPattern → Bool),
      (ws.patternOf r).map f = .error fault ↔ ws.patternOf r = .error fault := fun r f => by
    cases ws.patternOf r with
    | error first => exact ⟨fun h => congrArg _ (Except.error.inj h), fun h => congrArg _ (Except.error.inj h)⟩
    | ok p => exact iff_of_false (fun h => nomatch h) fun h => nomatch h
  simp only [matchingEvents_of_ne_nil h, filterM_eq_error_iff, exists_map_eq_ok_iff, herror]

/-! ## All selections -/

/-- Where all types are patterns, nothing specified selects all events, as the law for specifiers says. -/
theorem matchingEvents_of_patterned (h : ws.Patterned m) :
    ws.matchingEvents m specifiers = .ok (ws.selection m specifiers) := by
  by_cases hnil : specifiers = []
  · subst hnil
    refine congrArg Except.ok (List.filter_eq_self.mpr fun r hr => ?_).symm
    obtain ⟨p, hp⟩ := h r hr
    refine decide_eq_true ⟨p, hp, Or.inr ⟨Or.inr (List.forall_mem_nil _), fun name hmem => ?_⟩⟩
    cases hmem
  · exact (matchingEvents_eq_ok_iff hnil _).mpr ⟨h, rfl⟩

theorem eq_selection_of_patterned {events : List EntityRef} (h : ws.Patterned m)
    (hselected : ws.matchingEvents m specifiers = .ok events) : events = ws.selection m specifiers :=
  Except.ok.inj (hselected.symm.trans (matchingEvents_of_patterned h))

/-- What holds of patterns that are selected carries over to events, if some of the selections specifies something. -/
theorem sublist_of_chooses {events fewer : List EntityRef} (hsome : specifiers ≠ [])
    (h : ∀ p, Chooses specifiers p → Chooses others p) (hfewer : ws.matchingEvents m specifiers = .ok fewer)
    (hevents : ws.matchingEvents m others = .ok events) : fewer.Sublist events := by
  obtain ⟨hpatterned, rfl⟩ := (matchingEvents_eq_ok_iff hsome _).mp hfewer
  rw [eq_selection_of_patterned hpatterned hevents]
  exact selection_sublist h

/-- Two selections that specify something fail alike, and select the same if they choose the same patterns. -/
theorem matchingEvents_congr (h : specifiers ≠ []) (h' : others ≠ [])
    (hchosen : ∀ p, Chooses others p ↔ Chooses specifiers p) :
    ws.matchingEvents m others = ws.matchingEvents m specifiers := by
  have hselection : ws.selection m others = ws.selection m specifiers :=
    List.filter_congr fun r _ => decide_eq_decide.mpr (by simp only [Takes, hchosen])
  cases hresult : ws.matchingEvents m specifiers with
  | ok events => rwa [matchingEvents_eq_ok_iff h', hselection, ← matchingEvents_eq_ok_iff h]
  | error fault => rwa [matchingEvents_eq_error_iff h', ← matchingEvents_eq_error_iff h]

theorem matchingEvents_eq_of_mem_iff (h : ∀ s, s ∈ others ↔ s ∈ specifiers) :
    ws.matchingEvents m others = ws.matchingEvents m specifiers := by
  cases specifiers with
  | nil => rw [List.eq_nil_iff_forall_not_mem.mpr fun s hs => List.not_mem_nil ((h s).mp hs)]
  | cons s rest =>
    have hothers : others ≠ [] := List.ne_nil_of_mem ((h s).mpr List.mem_cons_self)
    exact matchingEvents_congr (List.cons_ne_nil s rest) hothers fun _ => chooses_congr h

/-- Inclusions and exclusions together select what is in both of their selections. -/
theorem filter_selection {inclusions exclusions : List String} (hin : ∀ s ∈ inclusions, ¬ IsExclusion s)
    (hex : ∀ s ∈ exclusions, IsExclusion s) : ws.selection m (inclusions ++ exclusions) =
      (ws.selection m inclusions).filter fun r => r ∈ ws.selection m exclusions := by
  rw [selection, selection.eq_def ws m inclusions, List.filter_filter]
  refine List.filter_congr fun r hr => ?_
  rw [Bool.eq_iff_iff, decide_eq_true_iff, Bool.and_eq_true, decide_eq_true_iff, decide_eq_true_iff, mem_selection_iff,
    and_iff_right hr]
  simp only [Takes, chooses_append_iff hin hex]
  constructor
  · rintro ⟨p, hp, hincluded, hleft⟩
    exact ⟨⟨p, hp, hleft⟩, p, hp, hincluded⟩
  · rintro ⟨⟨p, hp, hleft⟩, q, hq, hincluded⟩
    obtain rfl : p = q := Except.ok.inj (hp.symm.trans hq)
    exact ⟨p, hp, hincluded, hleft⟩

end

/-! ## The law -/

/-- Selection as the types of the events decide by themselves: the first event is named whose type does not compile,
and if there is none, the types select. -/
structure DecidedByTypes (ws : Workspace) (m : MachineRef) : Prop where
  refused_iff : ∀ specifiers, specifiers ≠ [] → ∀ id type,
    (∃ error, ws.matchingEvents m specifiers = .error (.invalidEventType id type error)) ↔
      ∃ before r after, ws.members m .event = before ++ r :: after ∧ (∀ s ∈ before, ∃ p, ws.ownPattern s = .ok p) ∧
        (∃ failure, ws.ownPattern r = .error failure) ∧ (ws.entity r).id = id ∧ (ws.entity r).eventType = type
  selected_eq : ∀ specifiers, specifiers ≠ [] → (∀ r ∈ ws.members m .event, ∃ p, ws.ownPattern r = .ok p) →
    ws.matchingEvents m specifiers = .ok ((ws.members m .event).filter fun r => Takes specifiers (ws.ownPattern r))

/-- The types of all events mean by themselves what events are selected by. -/
def TypesMeanThemselves (ws : Workspace) (m : MachineRef) : Prop :=
  ∀ r ∈ ws.members m .event, MeansItself (ws.entity r).id ((ws.entity r).eventType.getD "")

section
variable {ws : Workspace} {m : MachineRef} {r : EntityRef}

theorem TypesMeanThemselves.ownPattern_iff (h : ws.TypesMeanThemselves m) (hr : r ∈ ws.members m .event) :
    (∃ p, ws.ownPattern r = .ok p) ↔ ∃ p, ws.patternOf r = .ok p := by
  constructor
  · rintro ⟨p, hp⟩
    obtain ⟨q, hq, -⟩ := (h r hr).compileEventType_eq_ok hp
    exact ⟨q, hq⟩
  · rintro ⟨q, hq⟩
    cases hown : ws.ownPattern r with
    | ok p => exact ⟨p, rfl⟩
    | error failure =>
      obtain ⟨error, herror⟩ := (h r hr).compileEventType_eq_error hown
      cases hq.symm.trans herror

theorem TypesMeanThemselves.takes_iff (h : ws.TypesMeanThemselves m) (hr : r ∈ ws.members m .event)
    (specifiers : List String) : Takes specifiers (ws.patternOf r) ↔ Takes specifiers (ws.ownPattern r) := by
  cases hown : ws.ownPattern r with
  | ok p =>
    obtain ⟨q, hq, hmatches⟩ := (h r hr).compileEventType_eq_ok hown
    rw [patternOf, hq, takes_ok_iff, takes_ok_iff]
    simp only [Chooses, hmatches]
  | error failure =>
    obtain ⟨error, herror⟩ := (h r hr).compileEventType_eq_error hown
    rw [patternOf, herror]
    exact iff_of_false (not_takes_error _ _) (not_takes_error _ _)

theorem TypesMeanThemselves.decidedByTypes (h : ws.TypesMeanThemselves m) : ws.DecidedByTypes m where
  refused_iff specifiers hsome id type := by
    constructor
    · rintro ⟨error, herror⟩
      obtain ⟨before, r, after, hsplit, hbefore, hfault⟩ := (matchingEvents_eq_error_iff hsome _).mp herror
      have hmem {s : EntityRef} (hs : s ∈ before ++ r :: after) : s ∈ ws.members m .event := hsplit ▸ hs
      refine ⟨before, r, after, hsplit, fun s hs => ?_, ?_⟩
      · exact (h.ownPattern_iff (hmem (List.mem_append_left _ hs))).mpr (hbefore s hs)
      · have hr : r ∈ ws.members m .event := hmem (by simp)
        cases hown : ws.ownPattern r with
        | ok p =>
          obtain ⟨q, hq⟩ := (h.ownPattern_iff hr).mp ⟨p, hown⟩
          cases hq.symm.trans hfault
        | error failure =>
          obtain ⟨error', herror'⟩ := (h r hr).compileEventType_eq_error hown
          cases hfault.symm.trans herror'
          exact ⟨⟨failure, rfl⟩, rfl, rfl⟩
    · rintro ⟨before, r, after, hsplit, hbefore, ⟨failure, hown⟩, rfl, rfl⟩
      have hmem {s : EntityRef} (hs : s ∈ before ++ r :: after) : s ∈ ws.members m .event := hsplit ▸ hs
      obtain ⟨error, herror⟩ := (h r (hmem (by simp))).compileEventType_eq_error hown
      refine ⟨error, (matchingEvents_eq_error_iff hsome _).mpr ⟨before, r, after, hsplit, fun s hs => ?_, herror⟩⟩
      exact (h.ownPattern_iff (hmem (List.mem_append_left _ hs))).mp (hbefore s hs)
  selected_eq specifiers _ hown := by
    rw [matchingEvents_of_patterned fun r hr => (h.ownPattern_iff hr).mp (hown r hr)]
    exact congrArg _ (List.filter_congr fun r hr => decide_eq_decide.mpr (h.takes_iff hr specifiers))

end

/-- How a machine selects events: by the set of specifiers that is given, unless some event has a type that does not
compile. The first such event decides: it is named if its type is wrong, and not if the type counts beyond a limit. -/
structure SelectsBySet (ws : Workspace) (m : MachineRef) : Prop where
  refused_iff : ∀ specifiers, specifiers ≠ [] → ∀ fault, ws.matchingEvents m specifiers = .error fault ↔
    ∃ before r after, ws.members m .event = before ++ r :: after ∧ (∀ s ∈ before, ∃ p, ws.patternOf s = .ok p) ∧
      ws.patternOf r = .error fault ∧
      ((∃ error, fault = .invalidEventType (ws.entity r).id (ws.entity r).eventType error) ∨
        ∃ excess, fault = .excessiveNumber excess)
  selected_eq : ∀ specifiers, specifiers ≠ [] → ws.Patterned m →
    ws.matchingEvents m specifiers = .ok ((ws.members m .event).filter fun r => Takes specifiers (ws.patternOf r))
  /-- Patterns apart, the types themselves decide where they mean themselves. -/
  by_types : ws.TypesMeanThemselves m → ws.DecidedByTypes m
  order_free : ∀ specifiers others, (∀ s, s ∈ others ↔ s ∈ specifiers) →
    ws.matchingEvents m others = ws.matchingEvents m specifiers
  exclusion_removes : ∀ specifiers name fewer events, ws.matchingEvents m (("!" ++ name) :: specifiers) = .ok fewer →
    ws.matchingEvents m specifiers = .ok events → fewer.Sublist events
  inclusion_keeps : ∀ specifiers s events more, ¬ IsExclusion s → (∃ i ∈ specifiers, ¬ IsExclusion i) →
    ws.matchingEvents m specifiers = .ok events → ws.matchingEvents m (s :: specifiers) = .ok more →
    events.Sublist more
  both_separately : ∀ inclusions exclusions included left, (∀ s ∈ inclusions, ¬ IsExclusion s) →
    (∀ s ∈ exclusions, IsExclusion s) → ws.matchingEvents m inclusions = .ok included →
    ws.matchingEvents m exclusions = .ok left →
    ws.matchingEvents m (inclusions ++ exclusions) = .ok (included.filter fun r => r ∈ left)
  universal_kept : ∀ specifiers events, ws.matchingEvents m specifiers = .ok events → ∀ r ∈ ws.members m .event,
    ∀ p, ws.patternOf r = .ok p → (p.matchesAll "#ALL" = true ∨ p.matchesAll "#ANY" = true) → r ∈ events

/-- A machine with one event, of this type. -/
def clicking (type : String) : Workspace := filled "m" [{ id := "click", detail := .event (some type) }]

/-- Of these events, the second is excluded, and so is the third, which is also meant for an excluded target. -/
example : ((filled "m" [{ id := "click", detail := .event (some "ui") }, { id := "read", detail := .event (some "io") },
    { id := "either", detail := .event (some "ui|io") }, { id := "tick", detail := .event (some "#any") },
    { id := "untyped", detail := .event none }]).matchingEvents ⟨0⟩ ["UI", "!io", "UI"]).toOption =
      some [⟨1⟩, ⟨4⟩] := by decide +kernel

end Workspace

end StateMachine
