import StateMachine.Pattern
import StateMachine.Pattern.Reading

/-!
# What plain patterns match

A plain pattern is made of characters, sets of characters, and alternatives of plain patterns. It accepts texts piece
by piece, and a search finds a match exactly if there is one, in whatever order the alternatives are tried.
-/

namespace StateMachine.Pattern

/-! ## Plain patterns -/

/-- Patterns of characters, sets, and alternatives of such patterns. -/
inductive Plain : List Node → Prop
  | nil : Plain []
  | code (n : Nat) {rest : List Node} (h : Plain rest) : Plain (.code false n :: rest)
  | set (items : List SetItem) {rest : List Node} (h : Plain rest) : Plain (.set false items :: rest)
  | branch {alternatives : List (List Node)} (halternatives : ∀ body ∈ alternatives, Plain body) {rest : List Node}
      (h : Plain rest) : Plain (.branch alternatives :: rest)

/-- The texts of a plain pattern, as code points. -/
inductive Accepts (m : Mode) : List Node → List Nat → Prop
  | nil : Accepts m [] []
  | code {n c : Nat} (hc : (m.codeTest false n).holds c = true) {rest : List Node} {w : List Nat}
      (h : Accepts m rest w) : Accepts m (.code false n :: rest) (c :: w)
  | set {items : List SetItem} {c : Nat} (hc : (m.setTest false items).holds c = true) {rest : List Node} {w : List Nat}
      (h : Accepts m rest w) : Accepts m (.set false items :: rest) (c :: w)
  | branch {alternatives : List (List Node)} {body : List Node} (hbody : body ∈ alternatives) {u : List Nat}
      (hu : Accepts m body u) {rest : List Node} {w : List Nat} (h : Accepts m rest w) :
      Accepts m (.branch alternatives :: rest) (u ++ w)

section
variable {m : Mode} {nodes rest : List Node} {w : List Nat}

theorem accepts_nil_iff : Accepts m [] w ↔ w = [] :=
  ⟨fun h => by cases h; rfl, fun h => h ▸ .nil⟩

theorem accepts_code_iff {n : Nat} : Accepts m (.code false n :: rest) w ↔
    ∃ c v, w = c :: v ∧ (m.codeTest false n).holds c = true ∧ Accepts m rest v := by
  constructor
  · intro h
    cases h with
    | code hc h => exact ⟨_, _, rfl, hc, h⟩
  · rintro ⟨c, v, rfl, hc, h⟩
    exact .code hc h

theorem accepts_set_iff {items : List SetItem} : Accepts m (.set false items :: rest) w ↔
    ∃ c v, w = c :: v ∧ (m.setTest false items).holds c = true ∧ Accepts m rest v := by
  constructor
  · intro h
    cases h with
    | set hc h => exact ⟨_, _, rfl, hc, h⟩
  · rintro ⟨c, v, rfl, hc, h⟩
    exact .set hc h

theorem accepts_branch_iff {alternatives : List (List Node)} : Accepts m (.branch alternatives :: rest) w ↔
    ∃ u v, w = u ++ v ∧ (∃ body ∈ alternatives, Accepts m body u) ∧ Accepts m rest v := by
  constructor
  · intro h
    cases h with
    | branch hbody hu h => exact ⟨_, _, rfl, ⟨_, hbody, hu⟩, h⟩
  · rintro ⟨u, v, rfl, ⟨body, hbody, hu⟩, h⟩
    exact .branch hbody hu h

/-- A text of two patterns, one after the other, has two parts. -/
theorem accepts_append_iff (h : Plain nodes) : Accepts m (nodes ++ rest) w ↔
    ∃ u v, w = u ++ v ∧ Accepts m nodes u ∧ Accepts m rest v := by
  induction h generalizing w with
  | nil =>
    constructor
    · exact fun h => ⟨[], w, rfl, .nil, h⟩
    · rintro ⟨_, v, rfl, hu, hv⟩
      rwa [accepts_nil_iff.mp hu]
  | code n _ ih =>
    simp only [List.cons_append, accepts_code_iff, ih]
    constructor
    · rintro ⟨c, _, rfl, hc, u, v, rfl, hu, hv⟩
      exact ⟨c :: u, v, rfl, ⟨c, u, rfl, hc, hu⟩, hv⟩
    · rintro ⟨_, v, rfl, ⟨c, u, rfl, hc, hu⟩, hv⟩
      exact ⟨c, u ++ v, rfl, hc, u, v, rfl, hu, hv⟩
  | set items _ ih =>
    simp only [List.cons_append, accepts_set_iff, ih]
    constructor
    · rintro ⟨c, _, rfl, hc, u, v, rfl, hu, hv⟩
      exact ⟨c :: u, v, rfl, ⟨c, u, rfl, hc, hu⟩, hv⟩
    · rintro ⟨_, v, rfl, ⟨c, u, rfl, hc, hu⟩, hv⟩
      exact ⟨c, u ++ v, rfl, hc, u, v, rfl, hu, hv⟩
  | branch _ _ _ ih =>
    simp only [List.cons_append, accepts_branch_iff, ih]
    constructor
    · rintro ⟨t, _, rfl, ht, u, v, rfl, hu, hv⟩
      exact ⟨t ++ u, v, (List.append_assoc t u v).symm, ⟨t, u, rfl, ht, hu⟩, hv⟩
    · rintro ⟨_, v, rfl, ⟨t, u, rfl, ht, hu⟩, hv⟩
      exact ⟨t, u ++ v, List.append_assoc t u v, ht, u, v, rfl, hu, hv⟩

theorem Width.fst_add_le (a b : Width) : (a.add b).1 ≤ a.1 + b.1 := Nat.min_le_left _ _

theorem fst_widthOfAny_le (groups : List (Nat × Width)) {alternatives : List (List Node)} {body : List Node}
    (h : body ∈ alternatives) : (widthOfAny groups alternatives).1 ≤ (widthOf groups body).1 := by
  induction alternatives with
  | nil => cases h
  | cons other others ih =>
    rw [widthOfAny, Width.join]
    rcases List.mem_cons.mp h with rfl | h
    · exact Nat.min_le_left _ _
    · exact Nat.le_trans (Nat.min_le_right _ _) (ih h)

/-- No text is shorter than the least length of its pattern. -/
theorem Accepts.le_length (groups : List (Nat × Width)) (h : Accepts m nodes w) :
    (widthOf groups nodes).1 ≤ w.length := by
  have hcons (n : Node) (rest : List Node) :
      (widthOf groups (n :: rest)).1 ≤ (n.width groups).1 + (widthOf groups rest).1 := by
    rw [widthOf]
    exact Width.fst_add_le _ _
  induction h with
  | nil => exact Nat.le_refl 0
  | @code n c _ rest w _ ih =>
    have hle := hcons (.code false n) rest
    rw [Node.width] at hle
    rw [List.length_cons]
    omega
  | @set items c _ rest w _ ih =>
    have hle := hcons (.set false items) rest
    rw [Node.width] at hle
    rw [List.length_cons]
    omega
  | @branch alternatives body hbody u _ rest w _ ihu ih =>
    have hle := hcons (.branch alternatives) rest
    have hany := fst_widthOfAny_le groups hbody
    rw [Node.width] at hle
    rw [List.length_append]
    omega

theorem defectOfAny?_eq_none {template : Bool} {alternatives : List (List Node)}
    (h : ∀ body ∈ alternatives, defectOf? template body = none) : defectOfAny? template alternatives = none := by
  induction alternatives with
  | nil => rfl
  | cons body rest ih =>
    rw [defectOfAny?, h body List.mem_cons_self, ih fun other hother => h other (List.mem_cons_of_mem _ hother)]
    rfl

/-- Nothing is wrong with plain patterns. -/
theorem Plain.defectOf?_eq_none (h : Plain nodes) (template : Bool) : defectOf? template nodes = none := by
  induction h with
  | nil => rfl
  | code n _ ih => exact ih
  | set items _ ih => exact ih
  | branch _ _ ihalternatives ih =>
    rw [defectOf?, Node.defect?, defectOfAny?_eq_none ihalternatives, ih]
    rfl

end

/-! ## Searches -/

/-- What follows does not depend on what the search knows. -/
def Rest.Steady (k : Rest) : Prop := ∀ p s t, (k p s).1 = (k p t).1

/-- What follows accepts a place. -/
def Rest.Takes (k : Rest) (p : Nat) : Prop := ∀ s, (k p s).1 = true

section
variable {m : Mode} {text : Array Nat} {inside : Bool} {p : Nat} {s : Search} {k : Rest}

theorem Outcome.fst_orElse (o : Outcome) (other : Search → Outcome) :
    (o.orElse other).1 = true ↔ o.1 = true ∨ (other o.2).1 = true := by
  obtain ⟨_ | _, s⟩ := o <;> simp [Outcome.orElse]

/-- A program that refuses a place would have failed there. -/
theorem Program.searchAll_of_refuses {program : Program} (h : program.refuses text p = true) :
    (searchAll text inside program p s k).1 = false := by
  unfold Program.refuses at h
  split at h
  · rw [searchAll, Instruction.search, if_neg (by simpa using h)]
  · rw [searchAll, Instruction.search, if_neg (by simpa using h)]
  · cases h

/-- Where a pattern leads from a place of a text, something follows. -/
def Leads (m : Mode) (text : Array Nat) (nodes : List Node) (p : Nat) (k : Rest) : Prop :=
  ∃ u, Accepts m nodes u ∧ u <+: text.toList.drop p ∧ k.Takes (p + u.length)

theorem leads_nil_iff : Leads m text [] p k ↔ k.Takes p :=
  ⟨fun ⟨_, hu, _, h⟩ => by cases hu; exact h, fun h => ⟨[], .nil, List.nil_prefix, h⟩⟩

theorem cons_prefix_drop_iff {c : Nat} {v : List Nat} :
    c :: v <+: text.toList.drop p ↔ text[p]? = some c ∧ v <+: text.toList.drop (p + 1) := by
  rw [← Array.getElem?_toList]
  cases hdrop : text.toList.drop p with
  | nil =>
    have hlength : text.toList.length ≤ p := List.drop_eq_nil_iff.mp hdrop
    simp [List.getElem?_eq_none hlength]
  | cons d rest =>
    have hhead : text.toList[p]? = some d := by rw [← List.head?_drop, hdrop]; rfl
    have htail : text.toList.drop (p + 1) = rest := by rw [← List.tail_drop, hdrop]; rfl
    rw [List.cons_prefix_cons, hhead, htail, Option.some_inj, eq_comm]

theorem append_prefix_drop_iff {u v : List Nat} :
    u ++ v <+: text.toList.drop p ↔ u <+: text.toList.drop p ∧ v <+: text.toList.drop (p + u.length) := by
  rw [← List.drop_drop]
  constructor
  · rintro ⟨t, ht⟩
    rw [← ht, List.append_assoc, List.drop_left]
    exact ⟨List.prefix_append _ _, List.prefix_append _ _⟩
  · rintro ⟨⟨t, ht⟩, hv⟩
    rw [← ht, List.drop_left] at hv
    rw [← ht]
    exact (List.prefix_append_right_inj u).mpr hv

theorem leads_code_iff {n : Nat} {rest : List Node} : Leads m text (.code false n :: rest) p k ↔
    ∃ c, text[p]? = some c ∧ (m.codeTest false n).holds c = true ∧ Leads m text rest (p + 1) k := by
  constructor
  · rintro ⟨u, hu, hstarts, hk⟩
    obtain ⟨c, v, rfl, hc, hv⟩ := accepts_code_iff.mp hu
    obtain ⟨hget, hstarts⟩ := cons_prefix_drop_iff.mp hstarts
    exact ⟨c, hget, hc, v, hv, hstarts, by rwa [Nat.add_assoc, Nat.add_comm 1]⟩
  · rintro ⟨c, hget, hc, v, hv, hstarts, hk⟩
    exact ⟨c :: v, .code hc hv, cons_prefix_drop_iff.mpr ⟨hget, hstarts⟩, by rwa [Nat.add_assoc, Nat.add_comm 1] at hk⟩

theorem leads_set_iff {items : List SetItem} {rest : List Node} : Leads m text (.set false items :: rest) p k ↔
    ∃ c, text[p]? = some c ∧ (m.setTest false items).holds c = true ∧ Leads m text rest (p + 1) k := by
  constructor
  · rintro ⟨u, hu, hstarts, hk⟩
    obtain ⟨c, v, rfl, hc, hv⟩ := accepts_set_iff.mp hu
    obtain ⟨hget, hstarts⟩ := cons_prefix_drop_iff.mp hstarts
    exact ⟨c, hget, hc, v, hv, hstarts, by rwa [Nat.add_assoc, Nat.add_comm 1]⟩
  · rintro ⟨c, hget, hc, v, hv, hstarts, hk⟩
    exact ⟨c :: v, .set hc hv, cons_prefix_drop_iff.mpr ⟨hget, hstarts⟩, by rwa [Nat.add_assoc, Nat.add_comm 1] at hk⟩

/-- One of some alternatives leads to where the rest of the pattern leads on. -/
theorem leads_branch_iff {alternatives : List (List Node)} {rest : List Node} {k' : Rest}
    (hk' : ∀ q, k'.Takes q ↔ Leads m text rest q k) :
    Leads m text (.branch alternatives :: rest) p k ↔ ∃ body ∈ alternatives, Leads m text body p k' := by
  constructor
  · rintro ⟨w, hw, hstarts, hk⟩
    obtain ⟨u, v, rfl, ⟨body, hbody, hu⟩, hv⟩ := accepts_branch_iff.mp hw
    obtain ⟨hstarts, hstarts'⟩ := append_prefix_drop_iff.mp hstarts
    refine ⟨body, hbody, u, hu, hstarts, (hk' _).mpr ⟨v, hv, hstarts', ?_⟩⟩
    rwa [List.length_append, ← Nat.add_assoc] at hk
  · rintro ⟨body, hbody, u, hu, hstarts, hk⟩
    obtain ⟨v, hv, hstarts', hk⟩ := (hk' _).mp hk
    refine ⟨u ++ v, .branch hbody hu hv, append_prefix_drop_iff.mpr ⟨hstarts, hstarts'⟩, ?_⟩
    rwa [List.length_append, ← Nat.add_assoc]

theorem Rest.Steady.takes_iff (hk : k.Steady) (p : Nat) (s : Search) : k.Takes p ↔ (k p s).1 = true :=
  ⟨fun h => h s, fun h t => (hk p t s).trans h⟩

theorem searchAll_take_iff (t : Test) (program : Program) :
    (searchAll text inside (.take t :: program) p s k).1 = true ↔
      ∃ c, text[p]? = some c ∧ t.holds c = true ∧ (searchAll text inside program (p + 1) s k).1 = true := by
  rw [searchAll, Instruction.search, takes]
  cases text[p]? with
  | none => simp
  | some c =>
    rw [Option.any_some]
    split
    case isTrue h => simp [h]
    case isFalse h => simp [h]

/-- Alternatives are tried one after the other, each at the same place. -/
theorem searchAny_iff {alternatives : List (List Node)} {P : List Node → Prop} (saved : Marks)
    (h : ∀ body ∈ alternatives, ∀ s, (searchAll text inside (programOf m none body) p s k).1 = true ↔ P body) :
    (searchAny text inside saved (programsOf m alternatives) p s k).1 = true ↔ ∃ body ∈ alternatives, P body := by
  induction alternatives generalizing s with
  | nil => simp [programsOf, searchAny]
  | cons body rest ih =>
    have hbody := h body List.mem_cons_self
    have hrest (s : Search) := ih (s := s) fun other hother => h other (List.mem_cons_of_mem _ hother)
    rw [programsOf, searchAny]
    simp only [List.mem_cons, exists_eq_or_imp]
    split
    case isTrue hrefuses =>
      have hno : ¬ P body := by
        rw [← hbody s, Program.searchAll_of_refuses hrefuses]
        exact Bool.false_ne_true
      rw [hrest, or_iff_right hno]
    case isFalse => rw [Outcome.fst_orElse, hbody, hrest]

/-- A search finds what a plain pattern accepts. -/
theorem Plain.searchAll_iff {nodes : List Node} (h : Plain nodes) (next : Option Nat) (hk : k.Steady) :
    (searchAll text inside (programOf m next nodes) p s k).1 = true ↔ Leads m text nodes p k := by
  induction h generalizing p s k next with
  | nil => rw [leads_nil_iff, hk.takes_iff p s, programOf, searchAll]
  | code n _ ih =>
    rw [leads_code_iff, programOf, Node.program, List.singleton_append, searchAll_take_iff]
    simp only [ih next hk]
  | set items _ ih =>
    rw [leads_set_iff, programOf, Node.program, List.singleton_append, searchAll_take_iff]
    simp only [ih next hk]
  | @branch alternatives _ rest _ ihalternatives ih =>
    let k' : Rest := fun p s => searchAll text inside (programOf m next rest) p s k
    have hsteady : k'.Steady := fun p s t => Bool.eq_iff_iff.mpr ((ih next hk).trans (ih next hk).symm)
    have htakes (q : Nat) : k'.Takes q ↔ Leads m text rest q k := (hsteady.takes_iff q s).trans (ih next hk)
    rw [leads_branch_iff htakes, programOf, Node.program, List.singleton_append, searchAll, Instruction.search]
    exact searchAny_iff s.marks fun body hbody s => ihalternatives body hbody none hsteady

theorem steady_atEnd (text : Array Nat) : (Rest.atEnd text).Steady := by
  intro p s t
  unfold Rest.atEnd
  split <;> rfl

/-- A whole text is matched exactly if it is accepted. -/
theorem Plain.matchesAll_iff {nodes : List Node} (h : Plain nodes) :
    (programOf m none nodes).matchesAll text = true ↔ Accepts m nodes text.toList := by
  have hend (p : Nat) : (Rest.atEnd text).Takes p ↔ p = text.size := by
    rw [(steady_atEnd text).takes_iff p ⟨0, []⟩, Rest.atEnd]
    split
    case isTrue h => simp [h]
    case isFalse h => simp [h]
  rw [Program.matchesAll, h.searchAll_iff none (steady_atEnd text), Leads]
  simp only [hend, List.drop_zero, Nat.zero_add]
  constructor
  · rintro ⟨u, hu, hstarts, hlength⟩
    exact hstarts.eq_of_length hlength ▸ hu
  · exact fun h => ⟨text.toList, h, List.prefix_rfl, Array.length_toList⟩

end

end StateMachine.Pattern
