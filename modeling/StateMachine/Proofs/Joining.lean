import StateMachine.Proofs.Accepting
import StateMachine.Proofs.Folding

/-!
# Alternatives of plain words

Several words make one pattern: what all of them begin with is taken out, and single characters are merged to a set.
Over ASCII and without regard to case, that pattern still accepts exactly these words.
-/

namespace StateMachine.Pattern

/-! ## Words -/

/-- The pattern of a word. -/
def literal (word : List Nat) : List Node := word.map (Node.code false)

/-- Code points of ASCII characters only. -/
def IsAsciiWord (word : List Nat) : Prop := ∀ n ∈ word, n < 128

/-- Two words are the same but for letter case. -/
def SameWord (word w : List Nat) : Prop := w.map asciiLower = word.map asciiLower

theorem plain_literal (word : List Nat) : Plain (literal word) := by
  induction word with
  | nil => exact .nil
  | cons n word ih => exact .code n ih

theorem Plain.append {nodes rest : List Node} (h : Plain nodes) (hrest : Plain rest) : Plain (nodes ++ rest) := by
  induction h with
  | nil => exact hrest
  | code n _ ih => exact .code n ih
  | set items _ ih => exact .set items ih
  | branch halternatives _ _ ih => exact .branch halternatives ih

/-- A word accepts what is the same but for letter case. -/
theorem accepts_literal_iff {word w : List Nat} (hword : IsAsciiWord word) (hw : IsAsciiWord w) :
    Accepts anyCase (literal word) w ↔ SameWord word w := by
  induction word generalizing w with
  | nil => simp [literal, accepts_nil_iff, SameWord]
  | cons n word ih =>
    rw [literal, List.map_cons, accepts_code_iff]
    have hn : n < 128 := hword n List.mem_cons_self
    have hrest : IsAsciiWord word := fun k hk => hword k (List.mem_cons_of_mem _ hk)
    cases w with
    | nil => simp [SameWord]
    | cons c w =>
      have hc : c < 128 := hw c List.mem_cons_self
      have hih := ih hrest (w := w) fun k hk => hw k (List.mem_cons_of_mem _ hk)
      rw [SameWord, List.map_cons, List.map_cons, List.cons.injEq, ← codeTest_holds_iff hn hc, ← SameWord, ← hih]
      constructor
      · rintro ⟨_, _, ⟨rfl, rfl⟩, htest, hrest⟩
        exact ⟨htest, hrest⟩
      · exact fun ⟨htest, hrest⟩ => ⟨c, w, rfl, htest, hrest⟩

/-! ## What words begin with -/

/-- A word that begins with a character. -/
theorem literal_begins_iff {n : Nat} {word : List Nat} :
    (literal word).head?.any (Node.code false n).sameLeaf = true ↔ ∃ rest, word = n :: rest := by
  cases word with
  | nil => simp [literal]
  | cons k word =>
    have hleaf : (Node.code false n).sameLeaf (.code false k) = (n == k) := by simp [Node.sameLeaf]
    rw [literal, List.map_cons, List.head?_cons, Option.any_some, hleaf, beq_iff_eq]
    exact ⟨fun h => ⟨word, by rw [h]⟩, fun ⟨_, h⟩ => (List.cons.inj h).1.symm⟩

/-- What all words begin with is taken out of them. -/
theorem splitCommon_literal (fuel : Nat) (words : List (List Nat)) : ∃ (common : List Nat) (rest : List (List Nat)),
    Node.splitCommon fuel (words.map literal) = (literal common, rest.map literal) ∧
      words = rest.map (common ++ ·) := by
  have hnothing (words : List (List Nat)) : words = words.map ([] ++ ·) := by simp
  induction fuel generalizing words with
  | zero => exact ⟨[], words, rfl, hnothing words⟩
  | succ fuel ih =>
    cases words with
    | nil => exact ⟨[], [], rfl, rfl⟩
    | cons word words =>
      cases word with
      | nil => exact ⟨[], [] :: words, rfl, hnothing _⟩
      | cons n word =>
        have hsplit : Node.splitCommon (fuel + 1) (((n :: word) :: words).map literal) =
            if (((n :: word) :: words).map literal).all fun body => body.head?.any (Node.code false n).sameLeaf then
              (.code false n :: (Node.splitCommon fuel ((((n :: word) :: words).map literal).map (·.drop 1))).1,
                (Node.splitCommon fuel ((((n :: word) :: words).map literal).map (·.drop 1))).2)
            else ([], ((n :: word) :: words).map literal) := rfl
        rw [hsplit]
        split
        case isFalse => exact ⟨[], (n :: word) :: words, rfl, hnothing _⟩
        case isTrue hall =>
          have hbegin : ∀ w ∈ (n :: word) :: words, n :: w.tail = w := by
            intro w hw
            obtain ⟨rest, rfl⟩ := literal_begins_iff.mp (List.all_eq_true.mp hall _ (List.mem_map_of_mem hw))
            rfl
          have htails : (((n :: word) :: words).map literal).map (·.drop 1) =
              (((n :: word) :: words).map List.tail).map literal := by
            simp [literal, List.map_tail]
          rw [htails]
          obtain ⟨common, rest, heq, hwords⟩ := ih (((n :: word) :: words).map List.tail)
          refine ⟨n :: common, rest, by rw [heq]; rfl, ?_⟩
          calc (n :: word) :: words = ((n :: word) :: words).map (n :: ·.tail) :=
                ((List.map_congr_left hbegin).trans (List.map_id' _)).symm
            _ = (((n :: word) :: words).map List.tail).map (n :: ·) := by rw [List.map_map]; rfl
            _ = rest.map (n :: common ++ ·) := by rw [hwords, List.map_map]; rfl

/-! ## Sets of single characters -/

/-- The members of the set that stands for a pattern of one character. -/
def singleItems? : List Node → Option (List SetItem)
  | [n] => n.setItems?
  | _ => none

theorem ofAlternatives_eq (alternatives : List (List Node)) : Node.ofAlternatives alternatives =
    match alternatives.mapM singleItems? with
    | some items => .set false items.flatten.eraseDups
    | none => .branch alternatives := rfl

theorem singleItems?_literal_iff {word : List Nat} {items : List SetItem} :
    singleItems? (literal word) = some items ↔ ∃ n, word = [n] ∧ items = [.code n] := by
  cases word with
  | nil => simp [literal, singleItems?]
  | cons n word =>
    cases word with
    | nil => simp [literal, singleItems?, Node.setItems?, eq_comm]
    | cons k word => simp [literal, singleItems?]

/-- Words make a set if all of them are single characters. -/
theorem mapM_singleItems? {words : List (List Nat)} {items : List (List SetItem)}
    (h : (words.map literal).mapM singleItems? = some items) :
    ∃ ns : List Nat, words = ns.map ([·]) ∧ items.flatten = ns.map .code := by
  induction words generalizing items with
  | nil =>
    cases h
    exact ⟨[], rfl, rfl⟩
  | cons word words ih =>
    rw [List.map_cons, List.mapM_cons] at h
    obtain ⟨first, hfirst, h⟩ := Option.bind_eq_some_iff.mp h
    obtain ⟨others, hothers, h⟩ := Option.bind_eq_some_iff.mp h
    cases h
    obtain ⟨n, rfl, rfl⟩ := singleItems?_literal_iff.mp hfirst
    obtain ⟨ns, rfl, hflatten⟩ := ih hothers
    exact ⟨n :: ns, rfl, by rw [List.flatten_cons, hflatten]; rfl⟩

theorem plain_ofAlternatives (words : List (List Nat)) : Plain [Node.ofAlternatives (words.map literal)] := by
  rw [ofAlternatives_eq]
  split
  · exact .set _ .nil
  · refine .branch (fun body hbody => ?_) .nil
    obtain ⟨word, -, rfl⟩ := List.mem_map.mp hbody
    exact plain_literal word

theorem accepts_ofAlternatives_iff {words : List (List Nat)} {w : List Nat} (hwords : ∀ word ∈ words, IsAsciiWord word)
    (hw : IsAsciiWord w) :
    Accepts anyCase [Node.ofAlternatives (words.map literal)] w ↔ ∃ word ∈ words, SameWord word w := by
  rw [ofAlternatives_eq]
  cases hitems : (words.map literal).mapM singleItems? with
  | some items =>
    obtain ⟨ns, rfl, hflatten⟩ := mapM_singleItems? hitems
    have hns {n : Nat} (h : n ∈ ns) : n < 128 := hwords [n] (List.mem_map_of_mem h) n List.mem_cons_self
    have hcode {n : Nat} : .code n ∈ (ns.map SetItem.code).eraseDups ↔ n ∈ ns := by simp
    have hsmall : ∀ item ∈ (ns.map SetItem.code).eraseDups, ∃ n < 128, item = .code n := by
      intro item hitem
      obtain ⟨n, hn, rfl⟩ := List.mem_map.mp (List.mem_eraseDups.mp hitem)
      exact ⟨n, hns hn, rfl⟩
    rw [accepts_set_iff, hflatten]
    constructor
    · rintro ⟨c, v, rfl, htest, hv⟩
      obtain ⟨n, hn, hsame⟩ := (setTest_holds_iff hsmall (hw c List.mem_cons_self)).mp htest
      refine ⟨[n], List.mem_map_of_mem (hcode.mp hn), ?_⟩
      rw [accepts_nil_iff.mp hv, SameWord, List.map_singleton, List.map_singleton, hsame]
    · rintro ⟨_, hword, hsame⟩
      obtain ⟨n, hn, rfl⟩ := List.mem_map.mp hword
      obtain ⟨c, rfl, hc⟩ := List.map_eq_singleton_iff.mp hsame
      exact ⟨c, [], rfl, (setTest_holds_iff hsmall (hw c List.mem_cons_self)).mpr ⟨n, hcode.mpr hn, hc⟩, .nil⟩
  | none =>
    rw [accepts_branch_iff]
    constructor
    · rintro ⟨u, v, rfl, ⟨body, hbody, hu⟩, hv⟩
      obtain ⟨word, hword, rfl⟩ := List.mem_map.mp hbody
      rw [accepts_nil_iff.mp hv, List.append_nil] at hw ⊢
      exact ⟨word, hword, (accepts_literal_iff (hwords word hword) hw).mp hu⟩
    · rintro ⟨word, hword, hsame⟩
      exact ⟨w, [], (List.append_nil w).symm, ⟨literal word, List.mem_map_of_mem hword,
        (accepts_literal_iff (hwords word hword) hw).mpr hsame⟩, .nil⟩

/-! ## Alternatives -/

/-- One word is its own pattern. Of several, what all of them begin with is taken out. -/
theorem join_literal (words : List (List Nat)) :
    (∃ word, words = [word] ∧ Node.join (words.map literal) = literal word) ∨
      ∃ (common : List Nat) (rest : List (List Nat)), words = rest.map (common ++ ·) ∧
        Node.join (words.map literal) = literal common ++ [Node.ofAlternatives (rest.map literal)] := by
  have hseveral (alternatives : List (List Node)) (h : ∀ body, alternatives ≠ [body]) : ∃ fuel, Node.join alternatives =
      (Node.splitCommon fuel alternatives).1 ++ [Node.ofAlternatives (Node.splitCommon fuel alternatives).2] := by
    unfold Node.join
    split
    · exact absurd rfl (h _)
    · exact ⟨_, rfl⟩
  by_cases h : ∃ word, words = [word]
  · obtain ⟨word, rfl⟩ := h
    exact Or.inl ⟨word, rfl, rfl⟩
  · obtain ⟨fuel, hjoin⟩ := hseveral (words.map literal) fun body hbody => by
      obtain ⟨word, hword, -⟩ := List.map_eq_singleton_iff.mp hbody
      exact h ⟨word, hword⟩
    obtain ⟨common, rest, hsplit, hwords⟩ := splitCommon_literal fuel words
    rw [hsplit] at hjoin
    exact Or.inr ⟨common, rest, hwords, hjoin⟩

theorem plain_join (words : List (List Nat)) : Plain (Node.join (words.map literal)) := by
  rcases join_literal words with ⟨word, -, h⟩ | ⟨common, rest, -, h⟩
  · exact h ▸ plain_literal word
  · exact h ▸ (plain_literal common).append (plain_ofAlternatives rest)

theorem sameWord_append_iff {common word w : List Nat} :
    SameWord (common ++ word) w ↔ ∃ u v, w = u ++ v ∧ SameWord common u ∧ SameWord word v := by
  rw [SameWord, List.map_append, List.map_eq_append_iff]
  exact Iff.rfl

/-- The pattern of several words accepts these words and no others. -/
theorem accepts_join_iff {words : List (List Nat)} {w : List Nat} (hwords : ∀ word ∈ words, IsAsciiWord word)
    (hw : IsAsciiWord w) : Accepts anyCase (Node.join (words.map literal)) w ↔ ∃ word ∈ words, SameWord word w := by
  rcases join_literal words with ⟨word, rfl, h⟩ | ⟨common, rest, rfl, h⟩
  · rw [h, accepts_literal_iff (hwords word List.mem_cons_self) hw]
    simp
  · have hparts {u v : List Nat} (h : IsAsciiWord (u ++ v)) : IsAsciiWord u ∧ IsAsciiWord v :=
      ⟨fun n hn => h n (List.mem_append_left v hn), fun n hn => h n (List.mem_append_right u hn)⟩
    have hword (word : List Nat) (hword : word ∈ rest) := hparts (hwords (common ++ word) (List.mem_map_of_mem hword))
    rw [h, accepts_append_iff (plain_literal common)]
    constructor
    · rintro ⟨u, v, rfl, hu, hv⟩
      obtain ⟨hu', hv'⟩ := hparts hw
      obtain ⟨word, hmem, hsame⟩ := (accepts_ofAlternatives_iff (fun word h => (hword word h).2) hv').mp hv
      exact ⟨common ++ word, List.mem_map_of_mem hmem, sameWord_append_iff.mpr ⟨u, v, rfl,
        (accepts_literal_iff (hword word hmem).1 hu').mp hu, hsame⟩⟩
    · rintro ⟨_, hjoined, hsame⟩
      obtain ⟨word, hmem, rfl⟩ := List.mem_map.mp hjoined
      obtain ⟨u, v, rfl, hu, hv⟩ := sameWord_append_iff.mp hsame
      obtain ⟨hu', hv'⟩ := hparts hw
      exact ⟨u, v, rfl, (accepts_literal_iff (hword word hmem).1 hu').mpr hu,
        (accepts_ofAlternatives_iff (fun word h => (hword word h).2) hv').mpr ⟨word, hmem, hv⟩⟩

end StateMachine.Pattern
