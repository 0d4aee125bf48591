import Mathlib.Data.Bool.AllAny
import StateMachine.Proofs.Expanding
import StateMachine.Proofs.Uppercasing

/-!
# States whose ids read like `#ALL`

Ids are registered as they are spelled, and looked up so. But whether an arc leaves `#ALL` is read off the id that it
names, in any letter case. The two disagree about a state whose id is one of the seven other spellings of `#ALL`: its
arcs are taken for arcs from `#ALL`, and stand for all states.
-/

namespace StateMachine

/-! ## Spellings of `#ALL` -/

namespace Text

/-- The characters of `#ALL` in any letter case. -/
def allStateChars : List Char := ['#', 'A', 'a', 'L', 'l']

theorem toList_allStateId : allStateId.toList = ['#', 'A', 'L', 'L'] := by decide +kernel

theorem allStateId_subset : allStateId.toList ⊆ allStateChars := by decide +kernel

theorem toNat_ne_zero_of_mem_allStateId : ∀ d ∈ allStateId.toList, d.toNat ≠ 0 :=
  List.all_iff_forall_prop.mp (by decide +kernel)

theorem upperChar_of_mem_allStateChars : ∀ c ∈ allStateChars, upperChar c = [c.toUpper] :=
  List.all_iff_forall_prop.mp (by decide +kernel)

theorem shiftedTo_allStateId : ∀ d ∈ allStateId.toList, ∀ n ∈ shiftedTo upperRuns d.toNat,
    Char.ofNat n ∈ allStateChars := List.all_iff_forall_prop.mp (by decide +kernel)

/-- Where a character becomes several ones, there is one among them that `#ALL` does not have. -/
theorem not_subset_of_mem_upperExpansions : ∀ e ∈ upperExpansions, ∃ k ∈ e.2, Char.ofNat k ∉ allStateId.toList := by
  decide +kernel

theorem eq_toNat_of_ofNat {n : Nat} (h : (Char.ofNat n).toNat ≠ 0) : n = (Char.ofNat n).toNat := by
  by_cases hvalid : n.isValidChar
  · exact (toNat_ofNat hvalid).symm
  · rw [Char.ofNat, dif_neg hvalid] at h
    exact absurd rfl h

/-- What becomes characters of `#ALL` in upper case is one of them in some letter case. -/
theorem mem_allStateChars {c : Char} (h : upperChar c ⊆ allStateId.toList) : c ∈ allStateChars := by
  rcases upperCodes_cases c.toNat with hexpansion | hshift
  · obtain ⟨k, hk, hnot⟩ := not_subset_of_mem_upperExpansions _ hexpansion
    exact absurd (h (List.mem_map_of_mem hk)) hnot
  · have hmem : Char.ofNat (shiftCode upperRuns c.toNat) ∈ allStateId.toList := by
      apply h
      rw [upperChar, hshift]
      exact List.mem_singleton_self _
    have hne := toNat_ne_zero_of_mem_allStateId _ hmem
    have hcode := eq_toNat_of_ofNat hne
    rw [← Char.ofNat_toNat c]
    rcases mem_shiftedTo_of_shiftCode (hcode.trans_ne hne) with hsame | hsource
    · rw [hsame]
      exact allStateId_subset hmem
    · rw [hcode] at hsource
      exact shiftedTo_allStateId _ hmem _ hsource

/-- A text that becomes `#ALL` in upper case does so character by character. -/
theorem chars_of_upper_eq {s : String} (h : upper s = allStateId) :
    s.toList ⊆ allStateChars ∧ s.toList.map Char.toUpper = allStateId.toList := by
  have hupper : s.toList.flatMap upperChar = allStateId.toList := by
    rw [← h, upper, String.toList_ofList]
  have hchars : s.toList ⊆ allStateChars := fun c hc =>
    mem_allStateChars fun d hd => hupper ▸ List.mem_flatMap.mpr ⟨c, hc, hd⟩
  refine ⟨hchars, ?_⟩
  rw [← hupper, List.map_eq_flatMap]
  exact List.flatMap_congr fun c hc => (upperChar_of_mem_allStateChars c (hchars hc)).symm

theorem eq_of_toUpper_eq : ∀ c ∈ allStateChars, (c.toUpper = '#' → c = '#') ∧
    (c.toUpper = 'A' → c = 'A' ∨ c = 'a') ∧ (c.toUpper = 'L' → c = 'L' ∨ c = 'l') :=
  List.all_iff_forall_prop.mp (by decide +kernel)

end Text

/-- The texts that become `#ALL` in upper case without being it. -/
def otherSpellings : List String := ["#ALl", "#AlL", "#All", "#aLL", "#aLl", "#alL", "#all"]

theorem upper_otherSpellings : ∀ id ∈ otherSpellings, Text.upper id = allStateId := by decide +kernel

theorem upper_eq_allStateId_iff (id : String) : Text.upper id = allStateId ↔ id = allStateId ∨ id ∈ otherSpellings := by
  constructor
  · intro h
    obtain ⟨hchars, hupper⟩ := Text.chars_of_upper_eq h
    have hletters := fun c hc => Text.eq_of_toUpper_eq c (hchars hc)
    rw [Text.toList_allStateId] at hupper
    simp only [List.map_eq_cons_iff, List.map_eq_nil_iff] at hupper
    obtain ⟨a, _, hid, ha, b, _, rfl, hb, c, _, rfl, hc, d, _, rfl, hd, rfl⟩ := hupper
    rw [hid] at hletters
    obtain rfl := (hletters a (by simp)).1 ha
    rw [← String.ofList_toList (s := id), hid]
    rcases (hletters b (by simp)).2.1 hb with rfl | rfl <;> rcases (hletters c (by simp)).2.2 hc with rfl | rfl <;>
      rcases (hletters d (by simp)).2.2 hd with rfl | rfl <;> decide +kernel
  · rintro (rfl | hother)
    · decide +kernel
    · exact upper_otherSpellings id hother

namespace Workspace

/-! ## Arcs and their origins -/

/-- An arc is taken for what it is, by its origin: it leaves `#ALL` exactly if that is the machine's own state `#ALL`.
From any other state it is never one of the arcs that are expanded, and no expansion takes it away. -/
structure TakenRightly (ws : Workspace) (m : MachineRef) (r origin : EntityRef) : Prop where
  leavesAll_iff : (ws.entity r).leavesAll = true ↔ origin = (ws.machine m).allState
  not_expanded : origin ≠ (ws.machine m).allState → ∀ eventId, r ∉ ws.wildcardsOn m eventId
  not_removed : origin ≠ (ws.machine m).allState → ∀ eventId,
    .declared r ∈ (ws.arcsForEvent m eventId true).1 → .declared r ∈ (ws.arcsForEvent m eventId false).1

section
variable (ws : Workspace) (m : MachineRef) (eventId : String) (r : EntityRef)

/-- Expanding takes away the declared arcs that leave `#ALL`, and no others. -/
theorem declared_mem_expanded_iff : .declared r ∈ (ws.arcsForEvent m eventId false).1 ↔
    .declared r ∈ (ws.arcsForEvent m eventId true).1 ∧ (ws.entity r).leavesAll = false := by
  simp only [mem_arcsForEvent_iff, found, List.mem_filter, declared_mem_candidates, Bool.false_eq_true, false_or,
    true_or, and_true]
  exact and_right_comm

theorem mem_wildcardsOn_iff (hr : r ∈ ws.members m .arc) :
    r ∈ ws.wildcardsOn m eventId ↔ (ws.entity r).isOn eventId = true ∧ (ws.entity r).leavesAll = true := by
  rw [wildcardsOn, arcsOn, List.mem_filter, List.mem_filter, and_iff_right hr]

theorem takenRightly_iff_leavesAll (origin : EntityRef) : ws.TakenRightly m r origin ↔
    ((ws.entity r).leavesAll = true ↔ origin = (ws.machine m).allState) := by
  refine ⟨TakenRightly.leavesAll_iff, fun hiff => ⟨hiff, fun hne eventId hmem => ?_, fun hne eventId hraw => ?_⟩⟩
  · exact hne (hiff.mp (List.mem_filter.mp hmem).2)
  · exact (declared_mem_expanded_iff ws m eventId r).mpr ⟨hraw, Bool.eq_false_iff.mpr fun hall => hne (hiff.mp hall)⟩

end

section
variable {ws : Workspace} {m : MachineRef} (hx : (ws.machine m).Consistent ws.kindOf ws.entities.length)
include hx

theorem findFrom_eq_some_iff {e : Entity} (he : e.machine = some m) (kind : Kind) (id : Option String) (r : EntityRef) :
    ws.findFrom e kind id = .ok (some r) ↔
      ∃ i, id = some i ∧ (i, r) ∈ (ws.machine m).registry.entries ∧ ws.kindOf r = kind := by
  rw [findFrom, he]
  exact find_eq_some_iff hx kind id r

/-- Where the state `#ALL` has no other id, an id stands for it exactly if it is `#ALL`. -/
theorem eq_allState_iff (honce : ∀ entry ∈ (ws.machine m).registry.entries,
      entry.2 = (ws.machine m).allState → entry.1 = allStateId)
    {id : String} {origin : EntityRef} (hentry : (id, origin) ∈ (ws.machine m).registry.entries) :
    origin = (ws.machine m).allState ↔ id = allStateId := by
  constructor
  · exact honce _ hentry
  · rintro rfl
    exact eq_of_mem_entries hx _ _ _ hentry hx.allState_mem

end

/-- An arc whose origin resolves is taken for what it is exactly if these agree: that it names its origin by some
spelling of `#ALL`, and that the origin is the machine's state `#ALL`. Where this state was not added a second time
under another id, the name just has to be none of the other spellings. An arc that names its origin so is expanded on
every event that it is on, and is gone from what the expansion leaves. -/
theorem takenRightly_iff (ws : Workspace) (m : MachineRef) (r origin : EntityRef) (hreach : ws.Reachable)
    (hr : r ∈ ws.members m .arc) (hb : (ws.entity r).machine = some m)
    (hfrom : ws.findFrom (ws.entity r) .state (ws.entity r).transition.fromId = .ok (some origin)) :
    ∃ id, (ws.entity r).transition.fromId = some id ∧
      (ws.TakenRightly m r origin ↔
        ((id = allStateId ∨ id ∈ otherSpellings) ↔ origin = (ws.machine m).allState)) ∧
      ((∀ entry ∈ (ws.machine m).registry.entries, entry.2 = (ws.machine m).allState → entry.1 = allStateId) →
        (ws.TakenRightly m r origin ↔ id ∉ otherSpellings)) ∧
      (id ∈ otherSpellings → ∀ eventId, ((ws.entity r).isOn eventId = true → r ∈ ws.wildcardsOn m eventId) ∧
        .declared r ∉ (ws.arcsForEvent m eventId false).1) := by
  have hx := hreach.consistent.machine m (lt_of_mem_members ws m .arc r hr)
  obtain ⟨id, hid, hentry, _⟩ := (findFrom_eq_some_iff hx hb _ _ _).mp hfrom
  have hleaves : (ws.entity r).leavesAll = true ↔ id = allStateId ∨ id ∈ otherSpellings := by
    rw [← upper_eq_allStateId_iff, leavesAll_eq_true_iff, hid]
    simp
  have hiff : ws.TakenRightly m r origin ↔
      ((id = allStateId ∨ id ∈ otherSpellings) ↔ origin = (ws.machine m).allState) := by
    rw [takenRightly_iff_leavesAll, hleaves]
  refine ⟨id, hid, hiff, fun honce => ?_, fun hother eventId => ⟨fun hon => ?_, fun hmem => ?_⟩⟩
  · have hapart : id = allStateId → id ∉ otherSpellings := by
      rintro rfl
      decide +kernel
    rw [hiff, eq_allState_iff hx honce hentry, or_iff_left_iff_imp]
    exact ⟨fun himp hother => hapart (himp hother) hother, fun hnot hother => absurd hother hnot⟩
  · exact (mem_wildcardsOn_iff ws m eventId r hr).mpr ⟨hon, hleaves.mpr (Or.inr hother)⟩
  · have hnot := ((declared_mem_expanded_iff ws m eventId r).mp hmem).2
    rw [hleaves.mpr (Or.inr hother)] at hnot
    cases hnot

/-- A state `#all`, and an arc from it to another one. -/
def disguised : Workspace := filled "m"
  [{ id := "#all", detail := .state [] [] none }, { id := "s", detail := .state [] [] none },
   { id := "go", detail := .event none },
   { id := "w", detail := .arc { fromId := some "#all", toId := some "s", eventId := some "go" } },
   { id := "a", detail := .arc { fromId := some "s", toId := some "s", eventId := some "go" } }]

theorem origin_disguised (r origin : EntityRef) (id : String) (hb : (disguised.entity r).machine = some ⟨0⟩)
    (hid : (disguised.entity r).transition.fromId = some id)
    (hentry : (id, origin) ∈ (disguised.machine ⟨0⟩).registry.entries) (hkind : disguised.kindOf origin = .state) :
    disguised.findFrom (disguised.entity r) .state (disguised.entity r).transition.fromId = .ok (some origin) := by
  have hx := (reachable_filled _ _ : disguised.Reachable).consistent.machine ⟨0⟩ (by decide +kernel)
  exact (findFrom_eq_some_iff hx hb _ _ _).mpr ⟨id, hid, hentry, hkind⟩

theorem takenRightly_iff_disguised : ¬ disguised.TakenRightly ⟨0⟩ ⟨4⟩ ⟨1⟩ ∧ disguised.TakenRightly ⟨0⟩ ⟨5⟩ ⟨2⟩ ∧
    ⟨4⟩ ∈ disguised.wildcardsOn ⟨0⟩ "go" ∧ .declared ⟨4⟩ ∉ (disguised.arcsForEvent ⟨0⟩ "go" false).1 := by
  have hreach : disguised.Reachable := reachable_filled _ _
  have honce : ∀ entry ∈ (disguised.machine ⟨0⟩).registry.entries,
      entry.2 = (disguised.machine ⟨0⟩).allState → entry.1 = allStateId := by decide +kernel
  have hother : "#all" ∈ otherSpellings := by decide +kernel
  have hw : (disguised.entity ⟨4⟩).transition.fromId = some "#all" := by decide +kernel
  have ha : (disguised.entity ⟨5⟩).transition.fromId = some "s" := by decide +kernel
  obtain ⟨id, hid, _, hwright, hexpanded⟩ := takenRightly_iff disguised ⟨0⟩ ⟨4⟩ ⟨1⟩ hreach (by decide +kernel)
    (by decide +kernel) (origin_disguised _ _ _ (by decide +kernel) hw (by decide +kernel) (by decide +kernel))
  obtain rfl := Option.some.inj (hw.symm.trans hid)
  obtain ⟨id, hid, _, haright, _⟩ := takenRightly_iff disguised ⟨0⟩ ⟨5⟩ ⟨2⟩ hreach (by decide +kernel)
    (by decide +kernel) (origin_disguised _ _ _ (by decide +kernel) ha (by decide +kernel) (by decide +kernel))
  obtain rfl := Option.some.inj (ha.symm.trans hid)
  refine ⟨fun hright => (hwright honce).mp hright hother, (haright honce).mpr (by decide +kernel), ?_⟩
  exact ⟨(hexpanded hother "go").1 (by decide +kernel), (hexpanded hother "go").2⟩

/-- The arc from `#all` resolves to that state, but counts as an arc from `#ALL`. -/
theorem not_takenRightly_disguised : ¬ ∀ (ws : Workspace) (m : MachineRef) (r origin : EntityRef), ws.Reachable →
    r ∈ ws.members m .arc → (ws.entity r).machine = some m →
    ws.findFrom (ws.entity r) .state (ws.entity r).transition.fromId = .ok (some origin) →
    ws.TakenRightly m r origin := by
  intro h
  have hfrom := origin_disguised ⟨4⟩ ⟨1⟩ "#all" (by decide +kernel) (by decide +kernel) (by decide +kernel)
    (by decide +kernel)
  have hright := h disguised ⟨0⟩ ⟨4⟩ ⟨1⟩ (reachable_filled _ _) (by decide +kernel) (by decide +kernel) hfrom
  exact absurd (hright.leavesAll_iff.mp (by decide +kernel)) (by decide +kernel)

end Workspace

end StateMachine
