import StateMachine.Entity
import StateMachine.Proofs.Uppercasing

/-!
# Default names of constants

An id gives the default name of its constant: underscores take the place of what is no word character, and all is put in
upper case. Some letters split off an accent in upper case, and an accent is no word character. An id with such a letter
has a default name that is no identifier, and that has another default name, which then is one.
-/

namespace StateMachine

namespace Text

/-! ## Words in upper case -/

/-- Whether a code point is a word character. -/
def isWordCode (n : Nat) : Bool := n == 0x5f || inRanges letterRanges n || inRanges numberRanges n

theorem isWord_eq (c : Char) : isWord c = isWordCode c.toNat := by
  have hunderscore : (c == '_') = (c.toNat == 0x5f) := by
    rw [Bool.eq_iff_iff, beq_iff_eq, beq_iff_eq, ← Char.toNat_inj]
    rfl
  rw [isWord, hunderscore]
  rfl

/-- The accents that upper-case forms split off. -/
def accents : List Nat := [0x300, 0x301, 0x308, 0x30a, 0x30c, 0x313, 0x331, 0x342]

/-- The letters whose upper-case forms split off an accent. -/
def accentedLetters : List Nat :=
  [0x1f0, 0x390, 0x3b0, 0x1e96, 0x1e97, 0x1e98, 0x1e99, 0x1f50, 0x1f52, 0x1f54, 0x1f56, 0x1fb6, 0x1fb7, 0x1fc6, 0x1fc7,
   0x1fd2, 0x1fd3, 0x1fd6, 0x1fd7, 0x1fe2, 0x1fe3, 0x1fe4, 0x1fe6, 0x1fe7, 0x1ff6, 0x1ff7]

/-- Whether a single range has all code points from `first` to `last`. -/
def spans : Ranges → Nat → Nat → Bool
  | [], _, _ => false
  | (low, high) :: rest, first, last =>
    low.ble first && (last.ble high || (high.blt first && spans rest first last))

theorem inRanges_of_spans {ranges : Ranges} {first last n : Nat} (h : spans ranges first last = true)
    (hfirst : first ≤ n) (hlast : n ≤ last) : inRanges ranges n = true := by
  induction ranges with
  | nil => cases h
  | cons range rest ih =>
    simp only [spans, Bool.and_eq_true, Bool.or_eq_true, Nat.ble_eq, Nat.blt_eq] at h
    obtain ⟨hlow, hhigh | ⟨_, hrest⟩⟩ := h
    · rw [inRanges, if_neg (by omega), if_pos (by omega)]
    · rw [inRanges, if_neg (by omega)]
      split
      · rfl
      · exact ih hrest

/-- The members of a run, one by one. -/
def CaseRun.members (run : CaseRun) : List Nat := List.range' run.first ((run.last - run.first) / run.step + 1) run.step

theorem CaseRun.mem_members {run : CaseRun} {n : Nat} (h : run.has n = true) : n ∈ run.members := by
  obtain ⟨hfirst, hlast, hstep⟩ := (has_iff run n).mp h
  refine List.mem_range'.mpr ⟨(n - run.first) / run.step, ?_, ?_⟩
  · exact Nat.lt_succ_of_le (Nat.div_le_div_right (by omega))
  · have := Nat.div_add_mod (n - run.first) run.step
    omega

/-- Accents are no word characters, and split off from letters. -/
theorem accents_split : (∀ k ∈ accents, isWordCode k = false) ∧
    ∀ n ∈ accentedLetters, isWordCode n = true ∧ ∃ k ∈ upperCodes n, k ∈ accents := by decide +kernel

theorem expansion_words : ∀ e ∈ upperExpansions, (∀ k ∈ e.2, k ∈ accents ∨ isWordCode k = true) ∧
    ((∃ k ∈ e.2, k ∈ accents) → e.1 ∈ accentedLetters) := by decide +kernel

/-- Most runs map to one range of letters or numbers; in the others, word characters are mapped to word characters. -/
theorem image_words : ∀ run ∈ upperRuns, (spans letterRanges run.image.first run.image.last ||
    spans numberRanges run.image.first run.image.last ||
    run.members.all fun n => !isWordCode n || isWordCode (n + run.shift).toNat) = true := by decide +kernel

/-- Runs map word characters to word characters. -/
theorem isWordCode_shiftCode {n : Nat} (hn : isWordCode n = true) : isWordCode (shiftCode upperRuns n) = true := by
  rcases shiftCode_cases upperRuns n with ⟨run, hrun, hhas, heq⟩ | heq
  · obtain ⟨hfirst, hlast, _⟩ := (CaseRun.has_iff _ _).mp (run.has_image (tables_ordered.2.2 run hrun) hhas)
    have hwords := image_words run hrun
    rw [heq]
    rw [Bool.or_eq_true, Bool.or_eq_true, List.all_eq_true] at hwords
    rcases hwords with (hletters | hnumbers) | hmembers
    · rw [isWordCode, inRanges_of_spans hletters hfirst hlast, Bool.or_true, Bool.true_or]
    · rw [isWordCode, inRanges_of_spans hnumbers hfirst hlast, Bool.or_true]
    · simpa [hn] using hmembers n (CaseRun.mem_members hhas)
  · rwa [heq]

/-- The upper-case form of a word character consists of word characters and accents. -/
theorem accent_or_word_of_mem {n k : Nat} (hn : isWordCode n = true) (hk : k ∈ upperCodes n) :
    k ∈ accents ∨ isWordCode k = true := by
  rcases upperCodes_cases n with hexpansion | hshift
  · exact (expansion_words _ hexpansion).1 k hk
  · rw [hshift, List.mem_singleton] at hk
    exact Or.inr (hk ▸ isWordCode_shiftCode hn)

/-- It has an accent exactly if the word character is a letter that splits one off. -/
theorem exists_accent_iff {n : Nat} (hn : isWordCode n = true) :
    (∃ k ∈ upperCodes n, k ∈ accents) ↔ n ∈ accentedLetters := by
  refine ⟨?_, fun h => (accents_split.2 n h).2⟩
  rintro ⟨k, hk, haccent⟩
  rcases upperCodes_cases n with hexpansion | hshift
  · exact (expansion_words _ hexpansion).2 ⟨k, hk, haccent⟩
  · rw [hshift, List.mem_singleton] at hk
    have hnot := accents_split.1 k haccent
    rw [hk, isWordCode_shiftCode hn] at hnot
    cases hnot

theorem isValidChar_of_inRanges {ranges : Ranges} {n : Nat}
    (hranges : ∀ range ∈ ranges, range.2 < 0xd800 ∨ 0xdfff < range.1 ∧ range.2 < 0x110000)
    (h : inRanges ranges n = true) : n.isValidChar := by
  induction ranges with
  | nil => cases h
  | cons range rest ih =>
    obtain ⟨hrange, hrest⟩ := List.forall_mem_cons.mp hranges
    rw [inRanges] at h
    split at h
    · cases h
    · split at h
      · rw [Nat.isValidChar]
        omega
      · exact ih hrest h

/-- Word characters and accents are characters. -/
theorem isValidChar_of_word {n : Nat} (h : n ∈ accents ∨ isWordCode n = true) : n.isValidChar := by
  rcases h with haccent | hword
  · have hsmall : ∀ k ∈ accents, k < 0xd800 := by decide
    exact Or.inl (hsmall n haccent)
  · rw [isWordCode, Bool.or_eq_true, Bool.or_eq_true, beq_iff_eq] at hword
    rcases hword with (rfl | hletter) | hnumber
    · decide
    · exact isValidChar_of_inRanges (by decide +kernel) hletter
    · exact isValidChar_of_inRanges (by decide +kernel) hnumber

/-! ## Characters -/

/-- What stands for a character in a name: itself if it is a word character, else an underscore. -/
def underscored (c : Char) : Char := if isWord c then c else '_'

theorem isWord_underscored (c : Char) : isWord (underscored c) = true := by
  rw [underscored]
  split
  case isTrue h => exact h
  case isFalse => rfl

theorem underscored_of_isWord {c : Char} (h : isWord c = true) : underscored c = c := if_pos h

theorem mem_upperChar {c d : Char} (hc : isWord c = true) (hd : d ∈ upperChar c) :
    d.toNat ∈ upperCodes c.toNat ∧ (d.toNat ∈ accents ∨ isWord d = true) := by
  obtain ⟨k, hk, rfl⟩ := List.mem_map.mp hd
  have hkind := accent_or_word_of_mem (isWord_eq c ▸ hc) hk
  rw [isWord_eq, toNat_ofNat (isValidChar_of_word hkind)]
  exact ⟨hk, hkind⟩

/-- The upper-case form of a word character consists of word characters unless the letter splits off an accent. -/
theorem forall_isWord_upperChar_iff {c : Char} (hc : isWord c = true) :
    (∀ d ∈ upperChar c, isWord d = true) ↔ c.toNat ∉ accentedLetters := by
  have hcode : isWordCode c.toNat = true := isWord_eq c ▸ hc
  rw [← exists_accent_iff hcode]
  constructor
  · rintro hwords ⟨k, hk, haccent⟩
    have hword := hwords _ (List.mem_map_of_mem hk)
    rw [isWord_eq, toNat_ofNat (isValidChar_of_word (Or.inl haccent)), accents_split.1 k haccent] at hword
    cases hword
  · intro hnone d hd
    obtain ⟨hcodes, hkind⟩ := mem_upperChar hc hd
    exact hkind.resolve_left fun haccent => hnone ⟨_, hcodes, haccent⟩

/-- A text of word characters. -/
def IsWords (s : String) : Prop := ∀ c ∈ s.toList, isWord c = true

end Text

/-! ## Names -/

open Text

theorem toList_defaultEnumId (id : String) :
    (defaultEnumId id).toList = id.toList.flatMap fun c => upperChar (underscored c) := by
  rw [defaultEnumId, upper, String.toList_ofList, String.toList_ofList, List.flatMap_map]
  rfl

theorem mem_defaultEnumId_iff (id : String) (d : Char) :
    d ∈ (defaultEnumId id).toList ↔ ∃ c ∈ id.toList, d ∈ upperChar (underscored c) := by
  rw [toList_defaultEnumId, List.mem_flatMap]

theorem underscored_accented_iff (c : Char) : (underscored c).toNat ∈ accentedLetters ↔ c.toNat ∈ accentedLetters := by
  by_cases hc : isWord c = true
  · rw [underscored_of_isWord hc]
  · rw [underscored, if_neg hc]
    refine iff_of_false (by decide) fun h => hc ?_
    rw [isWord_eq]
    exact (accents_split.2 _ h).1

theorem isWords_defaultEnumId_iff (id : String) :
    IsWords (defaultEnumId id) ↔ ∀ c ∈ id.toList, c.toNat ∉ accentedLetters := by
  rw [IsWords, toList_defaultEnumId, List.forall_mem_flatMap]
  refine forall₂_congr fun c _ => ?_
  rw [forall_isWord_upperChar_iff (isWord_underscored c), underscored_accented_iff]

/-- A default name is in upper case, so its own default name only has underscores for what is no word character. -/
theorem toList_defaultEnumId_twice (id : String) :
    (defaultEnumId (defaultEnumId id)).toList = (defaultEnumId id).toList.map underscored := by
  have hupper : ∀ d ∈ (defaultEnumId id).toList, upperChar (underscored d) = [underscored d] := fun d hd => by
    obtain ⟨c, _, hc⟩ := (mem_defaultEnumId_iff id d).mp hd
    rw [underscored]
    split
    case isTrue => exact upperChar_of_mem hc
    case isFalse => rfl
  rw [toList_defaultEnumId (defaultEnumId id), List.flatMap_congr hupper, List.map_eq_flatMap]

theorem isWords_defaultEnumId_twice (id : String) : IsWords (defaultEnumId (defaultEnumId id)) := by
  rw [IsWords, toList_defaultEnumId_twice, List.forall_mem_map]
  exact fun d _ => isWord_underscored d

theorem defaultEnumId_twice_eq_iff (id : String) :
    defaultEnumId (defaultEnumId id) = defaultEnumId id ↔ IsWords (defaultEnumId id) := by
  refine ⟨fun h => h ▸ isWords_defaultEnumId_twice id, fun h => String.toList_inj.mp ?_⟩
  rw [toList_defaultEnumId_twice]
  exact (List.map_congr_left fun d hd => underscored_of_isWord (h d hd)).trans (List.map_id _)

/-- A default name consists of word characters and accents. It has no accents, and is its own default name, exactly if
no letter of the id splits one off. The default name of a default name always has none and is its own. -/
theorem settled_defaultEnumId_iff (id : String) :
    (∀ d ∈ (defaultEnumId id).toList, d.toNat ∈ accents ∨ isWord d = true) ∧
    (IsWords (defaultEnumId id) ↔ ∀ c ∈ id.toList, c.toNat ∉ accentedLetters) ∧
    (defaultEnumId (defaultEnumId id) = defaultEnumId id ↔ ∀ c ∈ id.toList, c.toNat ∉ accentedLetters) ∧
    IsWords (defaultEnumId (defaultEnumId id)) ∧
    defaultEnumId (defaultEnumId (defaultEnumId id)) = defaultEnumId (defaultEnumId id) := by
  have hwords := isWords_defaultEnumId_twice id
  refine ⟨fun d hd => ?_, isWords_defaultEnumId_iff id, ?_, hwords, (defaultEnumId_twice_eq_iff _).mpr hwords⟩
  · obtain ⟨c, _, hc⟩ := (mem_defaultEnumId_iff id d).mp hd
    exact (mem_upperChar (isWord_underscored c) hc).2
  · rw [defaultEnumId_twice_eq_iff, isWords_defaultEnumId_iff]

/-- In upper case, a `j` with a caron is a `J` and the caron for itself. -/
theorem not_settled_caron :
    ¬ ∀ id, IsWords (defaultEnumId id) ∧ defaultEnumId (defaultEnumId id) = defaultEnumId id := by
  intro h
  exact absurd (h "\u01f0").2 (by decide +kernel)

end StateMachine
