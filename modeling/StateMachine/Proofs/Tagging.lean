import Mathlib.Data.List.Basic
import StateMachine.Proofs.Joining
import StateMachine.Proofs.Wrapping

/-!
# Tags as types

A type that lists tags, with bars between them, is read as alternatives of plain words. An event of that type is
selected for its tags in any letter case, and for nothing else.
-/

namespace StateMachine.Pattern

open Reading

/-! ## Reading words -/

/-- The characters of tags. They stand for themselves. -/
def isWordChar (c : Char) : Bool := c.isAlphanum || c == '_'

/-- The code points of a word. -/
def codesOf (word : List Char) : List Nat := word.map Text.codeOf

/-- Tokens that are the characters of a text, one by one. -/
def Spell (tokens : List Token) (chars : List Char) : Prop := tokens.map (·.chars) = chars.map ([·])

theorem ne_of_isWordChar {c d : Char} (hc : isWordChar c = true) (hd : isWordChar d = false) : c ≠ d := by
  rintro rfl
  rw [hc] at hd
  cases hd

theorem spell_tokensFrom (k : Nat) {chars : List Char} (h : '\\' ∉ chars) : Spell (tokensFrom k chars) chars := by
  induction k, chars using tokensFrom.induct with
  | case1 k => rfl
  | case2 k c => rfl
  | case3 k c d rest hc ih =>
    obtain rfl : c = '\\' := by simpa using hc
    exact absurd List.mem_cons_self h
  | case4 k c d rest hc ih =>
    have htokens : tokensFrom k (c :: d :: rest) = ⟨[c], k⟩ :: tokensFrom (k + 1) (d :: rest) := by
      rw [tokensFrom, if_neg hc]
    rw [Spell, htokens, List.map_cons, ih fun hmem => h (List.mem_cons_of_mem _ hmem)]
    rfl

theorem Spell.not_dangling {tokens rest : List Token} {chars : List Char} (h : Spell tokens chars)
    (hchars : '\\' ∉ chars) (hrest : rest.head?.any Token.isDangling = false) :
    (tokens ++ rest).head?.any Token.isDangling = false := by
  cases tokens with
  | nil => exact hrest
  | cons t tokens =>
    obtain ⟨c, rest, rfl, hc, -⟩ := List.map_eq_cons_iff.mp h.symm
    have hne : c ≠ '\\' := fun hc => hchars (hc ▸ List.mem_cons_self)
    have hchars : t.chars = [c] := hc.symm
    simp [Token.isDangling, hchars, hne]

section
variable {fuel : Nat} {scope : Scope} {items : List Node} {r : Reader}

/-- A character of a word is read as it is. -/
theorem afterToken_word {again : Scope → List Node → Reading (List Node)} {group : Nat → Opening → Reading Node}
    (hverbose : scope.verbose = false) (start : Nat) {t : Token} {c : Char} (ht : t.chars = [c])
    (hc : isWordChar c = true) :
    afterToken again group scope items start t = again scope (.code false (Text.codeOf c) :: items) := by
  obtain ⟨_, position⟩ := t
  cases ht
  simp [afterToken, hverbose, ne_of_isWordChar hc, isWordChar]

/-- A word is read up to the end of the pattern or a bar. -/
theorem sequence_word {word : List Char} (hword : ∀ c ∈ word, isWordChar c = true) (hverbose : scope.verbose = false)
    {tokens rest : List Token} (htokens : r.tokens = tokens ++ rest) (hspell : Spell tokens word)
    (hrest : rest.head?.any Token.isDangling = false) (hstops : { r with tokens := rest }.stops = true)
    (hfuel : word.length < fuel) : sequence fuel scope items r =
      .ok (items.reverse.flatMap Node.ungrouped ++ literal (codesOf word), { r with tokens := rest }) := by
  induction word generalizing fuel items r tokens with
  | nil =>
    obtain ⟨fuel, rfl⟩ := Nat.exists_eq_succ_of_ne_zero (Nat.ne_zero_of_lt hfuel)
    obtain rfl : tokens = [] := List.map_eq_nil_iff.mp hspell
    obtain rfl : r.tokens = rest := htokens
    rw [sequence_stopped _ _ _ hstops, codesOf, List.map_nil, literal, List.map_nil, List.append_nil]
  | cons c word ih =>
    obtain ⟨fuel, rfl⟩ := Nat.exists_eq_succ_of_ne_zero (Nat.ne_zero_of_lt hfuel)
    obtain ⟨t, tokens, rfl, ht, hspell⟩ := List.map_eq_cons_iff.mp hspell
    have hc : isWordChar c = true := hword c List.mem_cons_self
    have hno : r.stops = false := by
      rw [Reader.stops, htokens, List.cons_append, List.head?_cons]
      simp [Token.isOneOf, Token.char?, ht, ne_of_isWordChar hc, isWordChar]
    have hbackslash : '\\' ∉ word := fun h => ne_of_isWordChar (hword _ (List.mem_cons_of_mem c h)) rfl rfl
    have hih := @ih fuel (.code false (Text.codeOf c) :: items) { r with tokens := tokens ++ rest }
      (fun d hd => hword d (List.mem_cons_of_mem _ hd)) tokens rfl hspell hstops (Nat.lt_of_succ_lt_succ hfuel)
    rw [sequence_cons _ _ _ (htokens.trans List.cons_append) hno (Spell.not_dangling hspell hbackslash hrest),
      afterToken_word hverbose _ ht hc, hih]
    simp [literal, codesOf, Node.ungrouped]

/-- There is no backslash in words with bars between them. -/
theorem backslash_not_mem {words : List (List Char)} (hwords : ∀ word ∈ words, ∀ c ∈ word, isWordChar c = true) :
    '\\' ∉ ['|'].intercalate words := by
  induction words with
  | nil => simp
  | cons word words ih =>
    have hword : '\\' ∉ word := fun h => ne_of_isWordChar (hwords word List.mem_cons_self _ h) rfl rfl
    cases words with
    | nil => rwa [List.intercalate_singleton]
    | cons other words =>
      rw [List.intercalate_cons_cons]
      simp [hword, ih fun word h => hwords word (List.mem_cons_of_mem _ h)]

/-- After a bar, further alternatives are read. -/
theorem afterItems_bar (nodes : List Node) (hverbose : scope.verbose = false) (hflags : r.flags = []) {bar : Token}
    {rest : List Token} (hr : r.tokens = bar :: rest) (hbar : bar.chars = ['|'])
    (hrest : rest.head?.any Token.isDangling = false) :
    afterItems fuel scope nodes r = (do
      let others ← alternatives fuel { scope with verbose := false, first := false }
      return nodes :: others) { r with tokens := rest } := by
  have haccept : accept '|' r = .ok (true, { r with tokens := rest }) := by
    rw [accept_of_next (by rw [hr]; simp [Token.isOneOf, Token.char?, hbar]), bind_of_ok (next_cons hr hrest)]
    rfl
  have hverbose' : (if scope.top then r.flags.contains .verbose else scope.verbose) = false := by
    rw [hflags, hverbose]
    exact ite_self false
  rw [afterItems, bind_of_ok haccept, if_pos rfl, bind_of_ok (x := get) rfl, hverbose']

/-- Words between bars are read one by one. -/
theorem alternatives_words {words : List (List Char)} (hne : words ≠ [])
    (hwords : ∀ word ∈ words, ∀ c ∈ word, isWordChar c = true) (hverbose : scope.verbose = false)
    (hflags : r.flags = []) (hspell : Spell r.tokens (['|'].intercalate words)) (hfuel : r.tokens.length + 1 < fuel) :
    alternatives fuel scope r = .ok (words.map fun word => literal (codesOf word), { r with tokens := [] }) := by
  induction words generalizing fuel scope r with
  | nil => exact absurd rfl hne
  | cons word words ih =>
    obtain ⟨fuel, rfl⟩ := Nat.exists_eq_succ_of_ne_zero (Nat.ne_zero_of_lt hfuel)
    have hword := hwords word List.mem_cons_self
    cases words with
    | nil =>
      rw [List.intercalate_singleton] at hspell
      have hlength : r.tokens.length = word.length := by simpa using congrArg List.length hspell
      have hsequence : sequence fuel scope [] r = _ :=
        sequence_word hword hverbose (List.append_nil r.tokens).symm hspell rfl rfl (by omega)
      rw [alternatives_succ, bind_of_ok hsequence]
      exact afterItems_ended _ _ _ rfl
    | cons other words =>
      rw [List.intercalate_cons_cons, List.append_assoc, Spell, List.map_append] at hspell
      obtain ⟨tokens, rest, htokens, hspell, hrest⟩ := List.map_eq_append_iff.mp hspell
      obtain ⟨bar, rest, rfl, hbar, hrest⟩ := List.map_eq_cons_iff.mp hrest
      have hbar : bar.chars = ['|'] := hbar
      have hlength : tokens.length = word.length := by simpa using congrArg List.length hspell
      have hall : r.tokens.length = tokens.length + (rest.length + 1) := by
        rw [htokens, List.length_append, List.length_cons]
      have hsequence : sequence fuel scope [] r = _ := sequence_word hword hverbose htokens hspell
        (by simp [Token.isDangling, hbar]) (by simp [Reader.stops, Token.isOneOf, Token.char?, hbar]) (by omega)
      have hothers : ∀ word ∈ other :: words, ∀ c ∈ word, isWordChar c = true :=
        fun word h => hwords word (List.mem_cons_of_mem _ h)
      have hdangling : (rest ++ []).head?.any Token.isDangling = false :=
        Spell.not_dangling hrest (backslash_not_mem hothers) rfl
      rw [List.append_nil] at hdangling
      have hih := @ih fuel { scope with verbose := false, first := false } { r with tokens := rest }
        (List.cons_ne_nil _ _) hothers rfl hflags hrest (by dsimp only; omega)
      rw [alternatives_succ, bind_of_ok hsequence,
        afterItems_bar (r := { r with tokens := bar :: rest }) _ hverbose hflags rfl hbar hdangling, bind_of_ok hih]
      rfl

end

/-- The pattern of several words. -/
def wordsPattern (words : List (List Char)) : List Node := Node.join ((words.map codesOf).map literal)

/-- Words with bars between them are read as alternatives of these words. -/
theorem read_words {words : List (List Char)} (hne : words ≠ [])
    (hwords : ∀ word ∈ words, ∀ c ∈ word, isWordChar c = true) :
    read (['|'].intercalate words) = .ok ⟨wordsPattern words, [], widthOf [] (wordsPattern words)⟩ := by
  have hspell := spell_tokensFrom 0 (backslash_not_mem hwords)
  have hhead : (_ ++ []).head?.any Token.isDangling = false :=
    Spell.not_dangling hspell (backslash_not_mem hwords) rfl
  rw [List.append_nil] at hhead
  have halternatives : alternatives (4 * (tokensFrom 0 (['|'].intercalate words)).length + 7) ⟨false, true, true⟩
      (.start (['|'].intercalate words)) = _ := alternatives_words hne hwords rfl rfl hspell
    (show (tokensFrom 0 (['|'].intercalate words)).length + 1 < _ by omega)
  have hexpression : expression (4 * (tokensFrom 0 (['|'].intercalate words)).length + 8) ⟨false, true, true⟩
      (.start (['|'].intercalate words)) =
        .ok (wordsPattern words, { Reader.start (['|'].intercalate words) with tokens := [] }) := by
    rw [expression, bind_of_ok halternatives, wordsPattern, List.map_map]
    rfl
  have hdefect : defectOf? false (wordsPattern words) = none := (plain_join _).defectOf?_eq_none false
  have hverdict :=
    Reader.verdict_of_sound (r := { Reader.start (['|'].intercalate words) with tokens := [] }) rfl hdefect
  rw [read_eq hhead, bind_of_ok hexpression, finish_ended _ rfl rfl, hverdict]
  rfl

end StateMachine.Pattern

namespace StateMachine

open Pattern

/-! ## Tags -/

/-- A tag is made of ASCII letters, digits and underscores. -/
def IsTag (tag : String) : Prop := ∀ c ∈ tag.toList, c.isAlphanum = true ∨ c = '_'

instance : DecidablePred IsTag := fun tag =>
  List.decidableBAll (fun c : Char => c.isAlphanum = true ∨ c = '_') tag.toList

/-- A text of ASCII characters. -/
def IsAsciiText (s : String) : Prop := ∀ c ∈ s.toList, c.toNat < 128

instance : DecidablePred IsAsciiText := fun s => List.decidableBAll (fun c : Char => c.toNat < 128) s.toList

/-- A text is one of some tags, in any letter case. -/
def NamesTag (tags : List String) (s : String) : Prop :=
  ∃ tag ∈ tags, s.toList.map Char.toLower = tag.toList.map Char.toLower

section
variable {tags : List String}

/-- What holds of the first characters by their numbers, holds of all ASCII characters. -/
theorem forall_ascii {P : Char → Prop} (h : ∀ n < 128, P (Char.ofNat n)) {c : Char} (hc : c.toNat < 128) : P c :=
  Char.ofNat_toNat c ▸ h c.toNat hc

theorem isWordChar_of_isTag {tag : String} (h : IsTag tag) {c : Char} (hc : c ∈ tag.toList) : isWordChar c = true := by
  simpa [isWordChar] using h c hc

theorem isAsciiText_of_isTag {tag : String} (h : IsTag tag) : IsAsciiText tag := by
  intro c hc
  rcases h c hc with hletter | rfl
  · delta Char.isAlphanum Char.isAlpha Char.isUpper Char.isLower Char.isDigit at hletter
    simp only [Bool.or_eq_true, Bool.and_eq_true, decide_eq_true_eq, UInt32.le_iff_toNat_le, ge_iff_le] at hletter
    have hval : c.toNat = c.val.toNat := rfl
    have hupper : 'Z'.val.toNat = 90 := rfl
    have hlower : 'z'.val.toNat = 122 := rfl
    have hdigit : '9'.val.toNat = 57 := rfl
    omega
  · decide

theorem codeOf_of_ascii {c : Char} (hc : c.toNat < 128) : Text.codeOf c = c.toNat := by
  have hno : ¬ Text.surrogateShift ≤ c.toNat := by
    rw [Text.surrogateShift]
    omega
  simp [Text.codeOf, hno]

theorem asciiLower_codeOf {c : Char} (hc : c.toNat < 128) : asciiLower (Text.codeOf c) = c.toLower.toNat := by
  rw [codeOf_of_ascii hc]
  exact forall_ascii (P := fun c => asciiLower c.toNat = c.toLower.toNat) (by decide +kernel) hc

/-- Texts are the same word if they are the same in lower case. -/
theorem sameWord_codesOf_iff {s t : String} (hs : IsAsciiText s) (ht : IsAsciiText t) :
    SameWord (codesOf t.toList) (codesOf s.toList) ↔ s.toList.map Char.toLower = t.toList.map Char.toLower := by
  have hlower {s : String} (hs : IsAsciiText s) :
      (codesOf s.toList).map asciiLower = (s.toList.map Char.toLower).map Char.toNat := by
    rw [codesOf, List.map_map, List.map_map]
    exact List.map_congr_left fun c hc => asciiLower_codeOf (hs c hc)
  rw [SameWord, hlower hs, hlower ht]
  exact (List.map_injective_iff.mpr fun c d h => Char.toNat_inj.mp h).eq_iff

theorem isAsciiWord_codesOf {s : String} (hs : IsAsciiText s) : IsAsciiWord (codesOf s.toList) := by
  intro n hn
  obtain ⟨c, hc, rfl⟩ := List.mem_map.mp hn
  rw [codeOf_of_ascii (hs c hc)]
  exact hs c hc

/-- The type that lists some tags, as it is compiled. -/
def tagsPattern (tags : List String) : CompiledPattern :=
  let nodes := wordsPattern (tags.map String.toList)
  ⟨programOf anyCase none nodes, (widthOf [] nodes).1⟩

theorem compileEventType_tags (eventId : String) (hne : tags ≠ []) (htags : ∀ tag ∈ tags, IsTag tag) :
    compileEventType eventId (some ("|".intercalate tags)) = .ok (tagsPattern tags) := by
  have hwords : ∀ word ∈ tags.map String.toList, ∀ c ∈ word, isWordChar c = true := by
    intro word hword c hc
    obtain ⟨tag, htag, rfl⟩ := List.mem_map.mp hword
    exact isWordChar_of_isTag (htags tag htag) hc
  have hread := read_words (by simpa using hne) hwords
  have htype : ("|".intercalate tags).toList = ['|'].intercalate (tags.map String.toList) := String.toList_intercalate
  rw [← htype] at hread
  rcases read_enclosed ("|".intercalate tags).toList with ⟨e, he, -, hwrapped⟩ | ⟨e, he, -⟩ | ⟨hflags, -⟩
  · cases hread.symm.trans he
    exact compileEventType_of_ok hwrapped
  · cases hread.symm.trans he
  · exact absurd rfl (hflags _ hread)

/-- Only tags match, and these in any letter case. -/
theorem matchesAll_tags_iff (htags : ∀ tag ∈ tags, IsTag tag) {s : String} (hs : IsAsciiText s) :
    (tagsPattern tags).matchesAll s = true ↔ NamesTag tags s := by
  have hwords : ∀ word ∈ (tags.map String.toList).map codesOf, IsAsciiWord word := by
    intro word hword
    obtain ⟨_, hchars, rfl⟩ := List.mem_map.mp hword
    obtain ⟨tag, htag, rfl⟩ := List.mem_map.mp hchars
    exact isAsciiWord_codesOf (isAsciiText_of_isTag (htags tag htag))
  have haccepts : Accepts anyCase (wordsPattern (tags.map String.toList)) (codesOf s.toList) ↔ NamesTag tags s := by
    rw [wordsPattern, accepts_join_iff hwords (isAsciiWord_codesOf hs)]
    simp only [List.map_map, List.mem_map, Function.comp_apply, exists_exists_and_eq_and, NamesTag]
    exact exists_congr fun tag => and_congr_right fun htag =>
      sameWord_codesOf_iff hs (isAsciiText_of_isTag (htags tag htag))
  have hplain : Plain (wordsPattern (tags.map String.toList)) := plain_join _
  rw [CompiledPattern.matchesAll, Bool.and_eq_true, decide_eq_true_eq, tagsPattern, hplain.matchesAll_iff, ← haccepts]
  refine and_iff_right_of_imp fun h => ?_
  have hlength : (codesOf s.toList).length = s.length := List.length_map _ |>.trans String.length_toList
  exact hlength ▸ h.le_length []

/-- No tag is a type that every selection takes. -/
theorem not_namesTag_universal (htags : ∀ tag ∈ tags, IsTag tag) : ∀ s ∈ universalTypes, ¬ NamesTag tags s := by
  have hmark (c : Char) (hc : c.toNat < 128) : isWordChar c = true → c.toLower ≠ '#' :=
    forall_ascii (P := fun c => isWordChar c = true → c.toLower ≠ '#') (by decide +kernel) hc
  intro s hs ⟨tag, htag, hsame⟩
  have hbegin : ∃ rest, s.toList.map Char.toLower = '#' :: rest := by
    rcases List.mem_pair.mp hs with rfl | rfl
    · exact ⟨_, rfl⟩
    · exact ⟨_, rfl⟩
  obtain ⟨rest, hrest⟩ := hbegin
  rw [hrest] at hsame
  obtain ⟨c, word, hword, hc, -⟩ := List.map_eq_cons_iff.mp hsame.symm
  have hmem : c ∈ tag.toList := hword ▸ List.mem_cons_self
  exact hmark c (isAsciiText_of_isTag (htags tag htag) c hmem) (isWordChar_of_isTag (htags tag htag) hmem) hc

/-- An event whose type lists tags is selected if one of them is included, or nothing is asked for, and none is
excluded. -/
theorem eventMatches_tags (eventId : String) {tags : List String} (hne : tags ≠ []) (htags : ∀ tag ∈ tags, IsTag tag)
    {s : Specifiers} (hincludes : ∀ i ∈ s.includes, IsAsciiText i) (hexcludes : ∀ x ∈ s.excludes, IsAsciiText x) :
    ∃ selected, eventMatches eventId (some ("|".intercalate tags)) s = .ok selected ∧ (selected = true ↔
      (s.includes = [] ∨ ∃ i ∈ s.includes, NamesTag tags i) ∧ ∀ x ∈ s.excludes, ¬ NamesTag tags x) := by
  refine ⟨(tagsPattern tags).isSelected s, by rw [eventMatches, compileEventType_tags eventId hne htags]; rfl, ?_⟩
  have huniversal : universalTypes.any (tagsPattern tags).matchesAll = false := by
    refine List.any_eq_false.mpr fun t ht => ?_
    have hascii : ∀ t ∈ universalTypes, IsAsciiText t := by decide
    rw [matchesAll_tags_iff htags (hascii t ht)]
    exact not_namesTag_universal htags t ht
  have hincluded : s.includes.any (tagsPattern tags).matchesAll = true ↔ ∃ i ∈ s.includes, NamesTag tags i := by
    rw [List.any_eq_true]
    exact exists_congr fun i => and_congr_right fun hi => matchesAll_tags_iff htags (hincludes i hi)
  have hexcluded : s.excludes.any (tagsPattern tags).matchesAll = false ↔ ∀ x ∈ s.excludes, ¬ NamesTag tags x := by
    rw [List.any_eq_false]
    exact forall₂_congr fun x hx => not_congr (matchesAll_tags_iff htags (hexcludes x hx))
  rw [CompiledPattern.isSelected, huniversal, Bool.false_or, Bool.and_eq_true, Bool.or_eq_true, List.isEmpty_iff,
    hincluded, Bool.not_eq_true', hexcluded]

/-- A tag in capitals is selected; what begins with a tag, or what a tag begins with, is not excluded. -/
theorem eventMatches_tags_ui : eventMatches "e" (some "ui|io_2") ⟨["UI"], ["u", "io_22"]⟩ = .ok true := by
  have htags : ∀ tag ∈ ["ui", "io_2"], IsTag tag := by decide
  have hincludes : ∀ i ∈ ["UI"], IsAsciiText i := by decide
  have hexcludes : ∀ x ∈ ["u", "io_22"], IsAsciiText x := by decide
  obtain ⟨selected, hselected, hiff⟩ :=
    eventMatches_tags "e" (List.cons_ne_nil _ _) htags (s := ⟨["UI"], ["u", "io_22"]⟩) hincludes hexcludes
  have hnames : (["UI"] = [] ∨ ∃ i ∈ ["UI"], NamesTag ["ui", "io_2"] i) ∧
      ∀ x ∈ ["u", "io_22"], ¬ NamesTag ["ui", "io_2"] x := by
    unfold NamesTag
    decide
  exact hiff.mpr hnames ▸ hselected

end

end StateMachine
