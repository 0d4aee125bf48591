import StateMachine.Pattern

/-!
# Letter case of ASCII characters

Without regard to case, an ASCII character passes the test for another one exactly if both have one lower-case letter.
Beyond ASCII there are characters that are compared like `i`, `k` and `s`, but these stand in no ASCII text.
-/

namespace StateMachine.Pattern

open Text

/-! ## Case maps -/

section
variable {first : CaseRun} {runs : List CaseRun} {n : Nat}

theorem CaseRun.not_has (run : CaseRun) (h : n < run.first) : run.has n = false := by
  have hno : ¬ run.first ≤ n := by omega
  simp [CaseRun.has, hno]

/-- All runs but the first are beyond ASCII. -/
theorem shiftCode_of_ascii (hruns : ∀ run ∈ runs, 128 ≤ run.first) (hn : n < 128) :
    shiftCode (first :: runs) n = if first.has n then (n + first.shift).toNat else n := by
  have hnone : runs.find? (·.has n) = none := by
    refine List.find?_eq_none.mpr fun run hrun => ?_
    rw [CaseRun.not_has run (by have := hruns run hrun; omega)]
    exact Bool.false_ne_true
  rw [shiftCode, List.find?_cons, hnone]
  cases first.has n <;> rfl

/-- An ASCII character is shifted by the first run only. -/
theorem mem_shiftedTo_iff (hruns : ∀ run ∈ runs, 128 ≤ run.first) (hn : n < 128) (k : Nat) :
    n ∈ shiftedTo (first :: runs) k ↔ first.has n = true ∧ ((k : Int) - first.shift).toNat = n := by
  rw [shiftedTo, List.mem_filterMap]
  constructor
  · rintro ⟨run, hrun, heq⟩
    dsimp only at heq
    split at heq
    case isFalse => cases heq
    case isTrue hhas =>
      obtain rfl := Option.some.inj heq
      rcases List.mem_cons.mp hrun with rfl | hrun
      · exact ⟨hhas, rfl⟩
      · rw [CaseRun.not_has run (by have := hruns run hrun; omega)] at hhas
        cases hhas
  · rintro ⟨hhas, rfl⟩
    exact ⟨first, List.mem_cons_self, if_pos hhas⟩

end

theorem lowerRuns_eq : lowerRuns = ⟨0x41, 0x5a, 1, 32⟩ :: lowerRuns.tail := rfl

theorem upperRuns_eq : upperRuns = ⟨0x61, 0x7a, 1, -32⟩ :: upperRuns.tail := rfl

/-- All else in the tables is about later code points. -/
theorem beyond_ascii : (∀ run ∈ lowerRuns.tail, 128 ≤ run.first) ∧ (∀ run ∈ upperRuns.tail, 128 ≤ run.first) ∧
    ∀ e ∈ upperExpansions, 128 ≤ e.1 := by decide +kernel

variable {n c : Nat}

theorem lowerCode_of_ascii (hn : n < 128) : lowerCode n = asciiLower n := by
  rw [lowerCode, lowerRuns_eq, shiftCode_of_ascii beyond_ascii.1 hn, asciiLower]
  simp only [CaseRun.has, Nat.mod_one, beq_self_eq_true, Bool.and_true, Bool.and_eq_true, decide_eq_true_eq]
  split <;> omega

theorem upperCode_of_ascii (hn : n < 128) : upperCode n = if 0x61 ≤ n ∧ n ≤ 0x7a then n - 32 else n := by
  have hlookup : upperExpansions.lookup n = none := by
    refine List.lookup_eq_none_iff.mpr fun e he => ?_
    have hkey := beyond_ascii.2.2 e he
    simp only [bne_iff_ne]
    omega
  rw [upperCode, upperCodes, hlookup, upperRuns_eq]
  dsimp only
  rw [List.headD_cons, shiftCode_of_ascii beyond_ascii.2.1 hn]
  simp only [CaseRun.has, Nat.mod_one, beq_self_eq_true, Bool.and_true, Bool.and_eq_true, decide_eq_true_eq]
  split <;> omega

theorem isCased_of_ascii (hn : n < 128) : Fold.unicode.isCased n = isAsciiLetterCode n := by
  rw [Fold.isCased, lowerCode_of_ascii hn, upperCode_of_ascii hn, isAsciiLetterCode, asciiLower, Bool.eq_iff_iff]
  simp only [Bool.or_eq_true, Bool.and_eq_true, bne_iff_ne, decide_eq_true_eq]
  split <;> split <;> omega

/-- Only two ASCII letters have an upper-case form that another lower-case character has too. -/
theorem caseClass_of_ascii : ∀ n < 128, caseClass n =
    if n = 0x69 then [0x69, 0x131] else if n = 0x73 then [0x73, 0x17f] else [n] := by decide +kernel

theorem asciiLower_lt (hn : n < 128) : asciiLower n < 128 := by
  rw [asciiLower]
  split <;> omega

/-- Beyond ASCII, no letter is compared like an ASCII character by its lower-case form. -/
theorem mem_variants_of_ascii (hn : n < 128) (hc : c < 128) :
    n ∈ Fold.unicode.variants (asciiLower c) ↔ asciiLower c = asciiLower n := by
  have hshifted (k : Nat) : n ∈ k :: shiftedTo lowerRuns k ↔ n = k ∨ (0x41 ≤ n ∧ n ≤ 0x5a) ∧ n + 32 = k := by
    rw [List.mem_cons, lowerRuns_eq, mem_shiftedTo_iff beyond_ascii.1 hn]
    simp only [CaseRun.has, Nat.mod_one, beq_self_eq_true, Bool.and_true, Bool.and_eq_true, decide_eq_true_eq]
    omega
  have hsame : (n = asciiLower c ∨ (0x41 ≤ n ∧ n ≤ 0x5a) ∧ n + 32 = asciiLower c) ↔ asciiLower c = asciiLower n := by
    rw [asciiLower, asciiLower]
    split <;> split <;> omega
  rw [Fold.variants, caseClass_of_ascii _ (asciiLower_lt hc), List.mem_flatMap, ← hsame]
  simp only [hshifted]
  split
  case isTrue hi =>
    simp only [hi, List.mem_cons, List.not_mem_nil, or_false, exists_eq_or_imp, exists_eq_left]
    omega
  split
  case isTrue hs =>
    simp only [hs, List.mem_cons, List.not_mem_nil, or_false, exists_eq_or_imp, exists_eq_left]
    omega
  case isFalse => simp

/-! ## Tests -/

/-- Letter case makes no difference. -/
def anyCase : Mode := { ignoreCase := true }

theorem holds_lower_iff (hc : c < 128) (low : Nat) :
    (Test.lower .unicode false low).holds c = true ↔ asciiLower c = low := by
  rw [Test.holds, Fold.lower, lowerCode_of_ascii hc]
  simp

/-- A character that is no letter is only itself in lower case. -/
theorem eq_iff_of_not_letter (h : isAsciiLetterCode n = false) : c = n ↔ asciiLower c = asciiLower n := by
  rw [isAsciiLetterCode] at h
  simp only [Bool.and_eq_false_iff, decide_eq_false_iff_not] at h
  simp only [asciiLower] at h ⊢
  split at h <;> split <;> omega

/-- An ASCII character passes the test for another one if they are the same in lower case. -/
theorem codeTest_holds_iff (hn : n < 128) (hc : c < 128) :
    (anyCase.codeTest false n).holds c = true ↔ asciiLower c = asciiLower n := by
  have hfold : anyCase.fold = .unicode := rfl
  rw [Mode.codeTest, hfold, isCased_of_ascii hn]
  cases hletter : isAsciiLetterCode n with
  | false =>
    simp only [Bool.not_false, if_true, Test.holds, Bool.bne_false, beq_iff_eq]
    exact eq_iff_of_not_letter hletter
  | true =>
    have hset (k : Nat) (hk : 128 ≤ k) :
        (Test.set .unicode false [.range (asciiLower n) (asciiLower n), .range k k]).holds c = true ↔
          asciiLower c = asciiLower n := by
      have hlt := asciiLower_lt hc
      simp only [Test.holds, Fold.lower, lowerCode_of_ascii hc, List.any_cons, List.any_nil, Member.has, Bool.or_false,
        Bool.bne_false, Bool.or_eq_true, Bool.and_eq_true, decide_eq_true_eq]
      omega
    rw [Bool.not_true, if_neg Bool.false_ne_true]
    simp only [Fold.lower, lowerCode_of_ascii hn, caseClass_of_ascii _ (asciiLower_lt hn)]
    by_cases hi : asciiLower n = 0x69
    · have hk := hset 0x131 (by omega)
      rw [hi] at hk ⊢
      exact hk
    by_cases hs : asciiLower n = 0x73
    · have hk := hset 0x17f (by omega)
      rw [hs] at hk ⊢
      exact hk
    rw [if_neg hi, if_neg hs]
    exact holds_lower_iff hc (asciiLower n)

/-- Each item of a set of characters stands for one part of it. -/
theorem any_members_iff {items : List SetItem} (hitems : ∀ item ∈ items, ∃ n < 128, item = .code n) {fold : Fold}
    {ascii : Bool} {member : Nat → Member} (h : ∀ n < 128, fold.members ascii (.code n) = [member n]) (c : Nat) :
    (items.flatMap (fold.members ascii)).any (Member.has c) = true ↔
      ∃ n, .code n ∈ items ∧ (member n).has c = true := by
  rw [List.any_flatMap, List.any_eq_true]
  constructor
  · rintro ⟨item, hitem, hany⟩
    obtain ⟨n, hn, rfl⟩ := hitems item hitem
    rw [h n hn] at hany
    exact ⟨n, hitem, by simpa using hany⟩
  · rintro ⟨n, hitem, hhas⟩
    obtain ⟨_, hn, heq⟩ := hitems _ hitem
    cases heq
    exact ⟨.code n, hitem, by rw [h n hn]; simpa using hhas⟩

/-- An ASCII character passes the test for a set of such if it is one of them in lower case. -/
theorem setTest_holds_iff {items : List SetItem} (hitems : ∀ item ∈ items, ∃ n < 128, item = .code n) (hc : c < 128) :
    (anyCase.setTest false items).holds c = true ↔ ∃ n, .code n ∈ items ∧ asciiLower c = asciiLower n := by
  have hfold : anyCase.fold = .unicode := rfl
  have hbound {n : Nat} (h : .code n ∈ items) : n < 128 := by
    obtain ⟨_, hn, heq⟩ := hitems _ h
    exact SetItem.code.inj heq ▸ hn
  have hsmall {n : Nat} (hn : n < 128) : ¬ lastOfFirstPlane < n := by
    rw [lastOfFirstPlane]
    omega
  rw [Mode.setTest, hfold, Test.holds, Bool.bne_false]
  cases hmatters : items.any Fold.unicode.matters with
  | true =>
    have hmember (n : Nat) (hn : n < 128) : Fold.unicode.members anyCase.ascii (.code n) = [.folded .unicode n n] := by
      have hle : n ≤ lastOfFirstPlane := Nat.not_lt.mp (hsmall hn)
      simp [Fold.members, Fold.range, hsmall hn, hle]
    rw [if_pos rfl, any_members_iff hitems hmember, Fold.lower, lowerCode_of_ascii hc]
    refine exists_congr fun n => and_congr_right fun hitem => ?_
    rw [← mem_variants_of_ascii (hbound hitem) hc, Member.has, List.any_eq_true]
    simp only [Bool.and_eq_true, decide_eq_true_eq]
    exact ⟨fun ⟨k, hk, hle, hge⟩ => Nat.le_antisymm hge hle ▸ hk, fun h => ⟨n, h, Nat.le_refl n, Nat.le_refl n⟩⟩
  | false =>
    have hmember (n : Nat) (hn : n < 128) : Fold.exact.members anyCase.ascii (.code n) = [.range n n] := by
      simp [Fold.members, Fold.range, hsmall hn]
    rw [if_neg Bool.false_ne_true, any_members_iff hitems hmember, Fold.lower]
    refine exists_congr fun n => and_congr_right fun hitem => ?_
    have hplain : isAsciiLetterCode n = false := by
      have hno := List.any_eq_false.mp hmatters _ hitem
      rw [Fold.matters, isCased_of_ascii (hbound hitem)] at hno
      simp only [Bool.not_eq_true, Bool.and_eq_false_iff, Bool.or_eq_false_iff] at hno
      exact (hno.resolve_left (by decide)).2
    rw [← eq_iff_of_not_letter hplain, Member.has]
    simp only [Bool.and_eq_true, decide_eq_true_eq]
    exact ⟨fun h => Nat.le_antisymm h.2 h.1, fun h => ⟨Nat.le_of_eq h.symm, Nat.le_of_eq h⟩⟩

end StateMachine.Pattern
