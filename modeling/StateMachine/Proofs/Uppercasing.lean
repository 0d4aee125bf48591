import Mathlib.Data.List.Chain
import StateMachine.Text.Upper

/-!
# What upper case maps to what

No character of an upper-case form has another upper-case form. And what runs map to a code point is listed as its
sources.
-/

namespace StateMachine.Text

/-! ## Runs -/

namespace CaseRun

theorem has_iff (run : CaseRun) (n : Nat) :
    run.has n = true ↔ run.first ≤ n ∧ n ≤ run.last ∧ (n - run.first) % run.step = 0 := by
  simp [has, and_assoc]

/-- The code points that a run maps its members to. -/
def image (run : CaseRun) : CaseRun :=
  ⟨(run.first + run.shift).toNat, (run.last + run.shift).toNat, run.step, 0⟩

theorem has_image (run : CaseRun) (hshift : 0 ≤ run.first + run.shift) {n : Nat} (hn : run.has n = true) :
    run.image.has (n + run.shift).toNat = true := by
  obtain ⟨hfirst, hlast, hstep⟩ := (has_iff run n).mp hn
  refine (has_iff _ _).mpr ⟨?_, ?_, ?_⟩
  · simp only [image]
    omega
  · simp only [image]
    omega
  · rw [← hstep]
    simp only [image]
    congr 1
    omega

/-- A run of one code point. -/
def single (n : Nat) : CaseRun := ⟨n, n, 1, 0⟩

theorem has_single (n : Nat) : (single n).has n = true := by
  simp [has, single]

/-- Two runs have no member in common, though they may overlap: the one has a single member and this is not in the
other, or both have every second code point and start differently. -/
def interleaves (a b : CaseRun) : Bool :=
  (a.first == a.last && !b.has a.first) || (a.step == 2 && b.step == 2 && a.first % 2 != b.first % 2)

theorem not_has_of_interleaves {a b : CaseRun} (h : a.interleaves b = true) {n : Nat} (hn : a.has n = true) :
    b.has n = false := by
  obtain ⟨hfirst, hlast, hstep⟩ := (has_iff a n).mp hn
  simp only [interleaves, Bool.or_eq_true, Bool.and_eq_true, beq_iff_eq, Bool.not_eq_true', bne_iff_ne] at h
  rcases h with ⟨hone, hnot⟩ | ⟨⟨ha, hb⟩, hparity⟩
  · obtain rfl : n = a.first := by omega
    exact hnot
  · rw [Bool.eq_false_iff, ne_eq, has_iff, hb]
    rw [ha] at hstep
    omega

/-- Whether a run has no member in common with any of the others. The search stops at the first one that begins above
it. -/
def avoids (a : CaseRun) : List CaseRun → Bool
  | [] => true
  | b :: rest => a.last.blt b.first || ((b.last.blt a.first || a.interleaves b) && a.avoids rest)

theorem not_has_of_avoids {a : CaseRun} {runs : List CaseRun} (hruns : (runs.map first).Pairwise (· ≤ ·))
    (h : a.avoids runs = true) {n : Nat} (hn : a.has n = true) : ∀ b ∈ runs, b.has n = false := by
  obtain ⟨hfirst, hlast, _⟩ := (has_iff a n).mp hn
  induction runs with
  | nil => simp
  | cons b rest ih =>
    obtain ⟨hb, hrest⟩ := List.pairwise_cons.mp hruns
    rw [List.forall_mem_map] at hb
    simp only [avoids, Bool.or_eq_true, Bool.and_eq_true, Nat.blt_eq] at h
    rw [List.forall_mem_cons]
    rcases h with habove | ⟨hhere, hlater⟩
    · have hbelow : ∀ c : CaseRun, b.first ≤ c.first → c.has n = false := fun c hc => by
        rw [Bool.eq_false_iff, ne_eq, has_iff]
        omega
      exact ⟨hbelow b (Nat.le_refl _), fun c hc => hbelow c (hb c hc)⟩
    · refine ⟨?_, ih hrest hlater⟩
      rcases hhere with hbelow | hbetween
      · rw [Bool.eq_false_iff, ne_eq, has_iff]
        omega
      · exact not_has_of_interleaves hbetween hn

end CaseRun

/-- A code point is mapped by a run that has it, or stays what it is. -/
theorem shiftCode_cases (runs : List CaseRun) (n : Nat) :
    (∃ run ∈ runs, run.has n = true ∧ shiftCode runs n = (n + run.shift).toNat) ∨ shiftCode runs n = n := by
  rw [shiftCode]
  cases hfind : runs.find? (·.has n) with
  | none => exact Or.inr rfl
  | some run =>
    have hhas : run.has n = true := by simpa using List.find?_some hfind
    exact Or.inl ⟨run, List.mem_of_find?_eq_some hfind, hhas, rfl⟩

theorem shiftCode_of_not_has {runs : List CaseRun} {n : Nat} (h : ∀ run ∈ runs, run.has n = false) :
    shiftCode runs n = n := by
  rw [shiftCode, List.find?_eq_none.mpr fun run hrun => by simp [h run hrun]]

/-- What is mapped to a code point is that itself, or is listed as such. -/
theorem mem_shiftedTo_of_shiftCode {runs : List CaseRun} {n : Nat} (h : shiftCode runs n ≠ 0) :
    n = shiftCode runs n ∨ n ∈ shiftedTo runs (shiftCode runs n) := by
  rcases shiftCode_cases runs n with ⟨run, hrun, hhas, heq⟩ | heq
  · refine Or.inr (List.mem_filterMap.mpr ⟨run, hrun, ?_⟩)
    have hsource : ((shiftCode runs n : Int) - run.shift).toNat = n := by omega
    rw [hsource, if_pos hhas]
  · exact Or.inl heq.symm

/-! ## The tables -/

/-- The code points whose upper-case form has several characters, as runs. -/
def expandedRuns : List CaseRun := upperExpansions.map fun e => .single e.1

/-- The tables are in ascending order, and no run maps to negative numbers. -/
theorem tables_ordered :
    (upperRuns.map CaseRun.first).IsChain (· ≤ ·) ∧ (expandedRuns.map CaseRun.first).IsChain (· ≤ ·) ∧
      ∀ run ∈ upperRuns, 0 ≤ run.first + run.shift := by decide +kernel

/-- Whether no member of a run has another upper-case form. -/
def CaseRun.settled (run : CaseRun) : Bool := run.avoids upperRuns && run.avoids expandedRuns

/-- The code points of all upper-case forms, as runs. -/
def upperForms : List CaseRun :=
  upperRuns.map CaseRun.image ++ upperExpansions.flatMap fun e => e.2.map CaseRun.single

theorem settled_of_mem_upperForms : ∀ run ∈ upperForms, run.settled = true := by decide +kernel

/-! ## Upper case of upper case -/

/-- The upper-case form of a code point is in the list of longer ones, or runs map the code point to it. -/
theorem upperCodes_cases (n : Nat) :
    (n, upperCodes n) ∈ upperExpansions ∨ upperCodes n = [shiftCode upperRuns n] := by
  rw [upperCodes]
  cases hlookup : upperExpansions.lookup n with
  | some codes =>
    obtain ⟨before, after, heq, _⟩ := List.lookup_eq_some_iff.mp hlookup
    exact Or.inl (by simp [heq])
  | none => exact Or.inr rfl

theorem upperCodes_of_settled {run : CaseRun} (h : run.settled = true) {n : Nat} (hn : run.has n = true) :
    upperCodes n = [n] := by
  obtain ⟨hruns, hexpanded⟩ := Bool.and_eq_true_iff.mp h
  obtain ⟨hascending, hascending', _⟩ := tables_ordered
  have hnone : upperExpansions.lookup n = none := by
    refine List.lookup_eq_none_iff.mpr fun e he => bne_iff_ne.mpr ?_
    rintro rfl
    have hnot := CaseRun.not_has_of_avoids hascending'.pairwise hexpanded hn _ (List.mem_map_of_mem he)
    rw [CaseRun.has_single] at hnot
    cases hnot
  rw [upperCodes, hnone]
  exact congrArg ([·]) (shiftCode_of_not_has (CaseRun.not_has_of_avoids hascending.pairwise hruns hn))

/-- The code points of an upper-case form have no other one. -/
theorem upperCodes_of_mem {n k : Nat} (h : k ∈ upperCodes n) : upperCodes k = [k] := by
  rcases upperCodes_cases n with hexpansion | hshift
  · have hform : .single k ∈ upperForms :=
      List.mem_append_right _ (List.mem_flatMap.mpr ⟨_, hexpansion, List.mem_map_of_mem h⟩)
    exact upperCodes_of_settled (settled_of_mem_upperForms _ hform) (CaseRun.has_single k)
  · rw [hshift, List.mem_singleton] at h
    rcases shiftCode_cases upperRuns n with ⟨run, hrun, hhas, heq⟩ | heq
    · have hform : run.image ∈ upperForms := List.mem_append_left _ (List.mem_map_of_mem hrun)
      rw [h, heq]
      exact upperCodes_of_settled (settled_of_mem_upperForms _ hform)
        (run.has_image (tables_ordered.2.2 run hrun) hhas)
    · rw [h, heq, hshift, heq]

theorem toNat_ofNat {n : Nat} (h : n.isValidChar) : (Char.ofNat n).toNat = n := by
  rw [Char.ofNat, dif_pos h]
  rfl

theorem upperChar_of_mem {c d : Char} (h : d ∈ upperChar c) : upperChar d = [d] := by
  obtain ⟨k, hk, rfl⟩ := List.mem_map.mp h
  by_cases hvalid : k.isValidChar
  · rw [upperChar, toNat_ofNat hvalid, upperCodes_of_mem hk]
    rfl
  · rw [Char.ofNat, dif_neg hvalid]
    decide +kernel

end StateMachine.Text
