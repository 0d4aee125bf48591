import StateMachine.Proofs.Searching

/-!
# Searching each branch by itself

The plain lookup of an attribute goes down the classes in depth and remembers nothing but the path to where it is. It
may enter a class once in every branch, where the search with a visited set enters it once at all. Both end alike: what
was entered and is not on the path has nothing to give, and neither has anything that it leads to.
-/

namespace StateMachine.Workspace

/-! ## The plain lookup -/

/-- What a lookup found, or why it failed. -/
abbrev Outcome := Except Fault (Option Value)

/-- How a lookup through some entities, one after the other, ends. The second list is the path to them. What bars an
entity may depend on this path only: from branch to branch nothing is shared. -/
inductive Walked (ws : Workspace) (name : String) (bars : List EntityRef → EntityRef → Prop) :
    List EntityRef → List EntityRef → Outcome → Prop
  | exhausted (path : List EntityRef) : Walked ws name bars [] path (.ok none)
  | barred {c : EntityRef} {rest path : List EntityRef} {outcome : Outcome} (hbarred : bars path c)
      (hrest : Walked ws name bars rest path outcome) : Walked ws name bars (c :: rest) path outcome
  | own {c : EntityRef} {rest path : List EntityRef} {v : Value} (hfree : ¬ bars path c)
      (hown : Value.field? (ws.entity c).attrs name = some v) :
      Walked ws name bars (c :: rest) path (.ok (some v))
  | refused {c : EntityRef} {rest path : List EntityRef} {fault : Fault} (hfree : ¬ bars path c)
      (hlacks : Value.field? (ws.entity c).attrs name = none) (hclasses : ws.classesOf c = .error fault) :
      Walked ws name bars (c :: rest) path (.error fault)
  | deeper {c : EntityRef} {classes rest path : List EntityRef} {outcome : Outcome} (hfree : ¬ bars path c)
      (hlacks : Value.field? (ws.entity c).attrs name = none) (hclasses : ws.classesOf c = .ok classes)
      (hdeep : Walked ws name bars classes (c :: path) outcome) (hends : outcome ≠ .ok none) :
      Walked ws name bars (c :: rest) path outcome
  | further {c : EntityRef} {classes rest path : List EntityRef} {outcome : Outcome} (hfree : ¬ bars path c)
      (hlacks : Value.field? (ws.entity c).attrs name = none) (hclasses : ws.classesOf c = .ok classes)
      (hdeep : Walked ws name bars classes (c :: path) (.ok none)) (hrest : Walked ws name bars rest path outcome) :
      Walked ws name bars (c :: rest) path outcome

/-- Entities on the path are not entered again. -/
def OnPath (path : List EntityRef) (c : EntityRef) : Prop := c ∈ path

/-- Nothing is barred: the recursion as it stands. -/
def Unbarred (_ : List EntityRef) (_ : EntityRef) : Prop := False

/-- No entity that a search can reach from this one is a class of itself, directly or through others. -/
def Acyclic (ws : Workspace) (x : EntityRef) : Prop :=
  ∀ r, ws.Inherits x r → ¬ Relation.TransGen ws.NamesClass r r

section
variable {ws : Workspace} {name : String}

/-- The rules leave no choice. -/
theorem Walked.unique {bars : List EntityRef → EntityRef → Prop} {classes path : List EntityRef}
    {outcome other : Outcome} (h : ws.Walked name bars classes path outcome)
    (hother : ws.Walked name bars classes path other) : other = outcome := by
  induction h generalizing other with
  | exhausted => cases hother; rfl
  | barred hbarred _ ih =>
    cases hother with
    | barred _ hrest => exact ih hrest
    | _ => contradiction
  | own _ hown => cases hother <;> simp_all
  | refused _ hlacks hclasses => cases hother <;> simp_all
  | deeper _ hlacks hclasses _ hends ih =>
    cases hother with
    | deeper _ _ hclasses' hdeep _ =>
      obtain rfl := Except.ok.inj (hclasses.symm.trans hclasses')
      exact ih hdeep
    | further _ _ hclasses' hdeep _ =>
      obtain rfl := Except.ok.inj (hclasses.symm.trans hclasses')
      exact absurd (ih hdeep).symm hends
    | _ => simp_all
  | further _ hlacks hclasses _ _ ihdeep ihrest =>
    cases hother with
    | deeper _ _ hclasses' hdeep hends =>
      obtain rfl := Except.ok.inj (hclasses.symm.trans hclasses')
      exact absurd (ihdeep hdeep) hends
    | further _ _ _ _ hrest => exact ihrest hrest
    | _ => simp_all

/-! ## What was entered before -/

/-- What was entered is on the path, or it is spent: it lacks the attribute, and all its classes were entered. -/
def Spent (ws : Workspace) (name : String) (path seen : List EntityRef) : Prop :=
  ∀ r ∈ seen, r ∈ path ∨ Value.field? (ws.entity r).attrs name = none ∧
    ∃ named, ws.classesOf r = .ok named ∧ named ⊆ seen

/-- A lookup that starts among spent entities does not get out of them, and finds nothing. -/
theorem Spent.walked {path seen : List EntityRef} (h : ws.Spent name path seen) (longer classes : List EntityRef)
    (hpath : path ⊆ longer) (hclasses : classes ⊆ seen) : ws.Walked name OnPath classes longer (.ok none) := by
  -- Each step down takes one of the spent entities to the path.
  induction hleft : (seen.toFinset.filter (· ∉ longer)).card using Nat.strong_induction_on
    generalizing longer classes with
  | h left ihleft =>
    induction classes with
    | nil => exact .exhausted longer
    | cons c rest ihrest =>
      obtain ⟨hc, hrest⟩ := List.cons_subset.mp hclasses
      by_cases hon : c ∈ longer
      · exact .barred hon (ihrest hrest)
      obtain ⟨hlacks, named, hnamed, hin⟩ := (h c hc).resolve_left fun hc => hon (hpath hc)
      have hfewer : (seen.toFinset.filter (· ∉ c :: longer)).card < left := by
        rw [← hleft]
        refine Finset.card_lt_card (Finset.ssubset_iff_of_subset ?_ |>.mpr ⟨c, by simp [hc, hon], by simp⟩)
        exact Finset.monotone_filter_right _ fun r _ hr hmem => hr (List.mem_cons_of_mem c hmem)
      have hdeep := ihleft _ hfewer (c :: longer) named (List.subset_cons_of_subset c hpath) hin rfl
      exact .further hon hlacks hnamed hdeep (ihrest hrest)

/-- Below an entity, it is on the path itself. -/
theorem Spent.enter {path seen : List EntityRef} (h : ws.Spent name path seen) (c : EntityRef) :
    ws.Spent name (c :: path) (c :: seen) := by
  intro r hr
  rcases List.mem_cons.mp hr with rfl | hr
  · exact Or.inl List.mem_cons_self
  · rcases h r hr with hon | ⟨hlacks, named, hnamed, hin⟩
    · exact Or.inl (List.mem_cons_of_mem c hon)
    · exact Or.inr ⟨hlacks, named, hnamed, List.subset_cons_of_subset c hin⟩

/-- After a search below an entity has found nothing, the entity is spent, with all that was entered below it. -/
theorem Spent.leave {c : EntityRef} {classes path seen entered : List EntityRef} (h : ws.Spent name path seen)
    (hopens : ws.Opens name seen c classes) (hdeep : ws.Searched name classes (c :: seen) (.ok (none, entered))) :
    ws.Spent name path entered := by
  obtain ⟨hgrown, hbelow, hclosed⟩ := hdeep.closed
  intro r hr
  rcases hclosed r hr with hseen | hspent
  · rcases List.mem_cons.mp hseen with rfl | hseen
    · exact Or.inr ⟨hopens.lacks, _, hopens.classes, hbelow⟩
    · rcases h r hseen with hon | ⟨hlacks, named, hnamed, hin⟩
      · exact Or.inl hon
      · exact Or.inr ⟨hlacks, named, hnamed, fun d hd => hgrown (List.mem_cons_of_mem c (hin hd))⟩
  · exact Or.inr hspent

/-! ## Both ways end alike -/

/-- Where a search with a visited set ends, there the plain lookup ends: it enters again what the search skips, but to no
avail. -/
theorem Searched.walked {classes seen : List EntityRef} {result : Search} (h : ws.Searched name classes seen result)
    (path : List EntityRef) (hpath : path ⊆ seen) (hspent : ws.Spent name path seen) :
    ws.Walked name OnPath classes path (result.map (·.1)) := by
  induction h generalizing path with
  | exhausted => exact .exhausted path
  | @skipped c _ _ _ hseen _ ih =>
    have hrest := ih path hpath hspent
    by_cases hon : c ∈ path
    · exact .barred hon hrest
    · obtain ⟨hlacks, named, hnamed, hin⟩ := (hspent c hseen).resolve_left hon
      exact .further hon hlacks hnamed (hspent.walked (c :: path) named (List.subset_cons_self c path) hin) hrest
  | own hfresh hown => exact .own (fun hon => hfresh (hpath hon)) hown
  | refused hfresh hlacks hclasses => exact .refused (fun hon => hfresh (hpath hon)) hlacks hclasses
  | @failed c _ _ _ _ hopens _ ih =>
    have hdeep := ih (c :: path) (List.cons_subset_cons c hpath) (hspent.enter c)
    exact .deeper (fun hon => hopens.fresh (hpath hon)) hopens.lacks hopens.classes hdeep (by simp [Except.map])
  | @inherited c _ _ _ _ _ hopens _ ih =>
    have hdeep := ih (c :: path) (List.cons_subset_cons c hpath) (hspent.enter c)
    exact .deeper (fun hon => hopens.fresh (hpath hon)) hopens.lacks hopens.classes hdeep (by simp [Except.map])
  | @further c _ _ _ _ _ hopens hsearched _ ihdeep ihrest =>
    have hdeep := ihdeep (c :: path) (List.cons_subset_cons c hpath) (hspent.enter c)
    have hgrown := List.Subset.trans (List.subset_cons_self c _) hsearched.closed.1
    have hrest := ihrest path (List.Subset.trans hpath hgrown) (hspent.leave hopens hsearched)
    exact .further (fun hon => hopens.fresh (hpath hon)) hopens.lacks hopens.classes hdeep hrest

/-- Where no entity is a class of itself, a lookup never comes upon its own path. -/
theorem Walked.unbarred {x : EntityRef} (hacyclic : ws.Acyclic x) {classes path : List EntityRef} {outcome : Outcome}
    (h : ws.Walked name OnPath classes path outcome)
    (hclasses : ∀ c ∈ classes, ws.Inherits x c ∧ ∀ p ∈ path, Relation.TransGen ws.NamesClass p c) :
    ws.Walked name Unbarred classes path outcome := by
  have hbelow : ∀ {c : EntityRef} {named path : List EntityRef}, ws.classesOf c = .ok named → ws.Inherits x c →
      (∀ p ∈ path, Relation.TransGen ws.NamesClass p c) →
      ∀ d ∈ named, ws.Inherits x d ∧ ∀ p ∈ c :: path, Relation.TransGen ws.NamesClass p d := by
    intro c named path hnamed hreached habove d hd
    refine ⟨hreached.tail ⟨named, hnamed, hd⟩, List.forall_mem_cons.mpr ⟨.single ⟨named, hnamed, hd⟩, ?_⟩⟩
    exact fun p hp => (habove p hp).tail ⟨named, hnamed, hd⟩
  induction h with
  | exhausted path => exact .exhausted path
  | barred hon _ _ =>
    obtain ⟨hreached, habove⟩ := hclasses _ List.mem_cons_self
    exact absurd (habove _ hon) (hacyclic _ hreached)
  | own _ hown => exact .own not_false hown
  | refused _ hlacks hrefused => exact .refused not_false hlacks hrefused
  | deeper _ hlacks hnamed _ hends ih =>
    obtain ⟨hreached, habove⟩ := hclasses _ List.mem_cons_self
    exact .deeper not_false hlacks hnamed (ih (hbelow hnamed hreached habove)) hends
  | further _ hlacks hnamed _ _ ihdeep ihrest =>
    obtain ⟨⟨hreached, habove⟩, hrest⟩ := List.forall_mem_cons.mp hclasses
    exact .further not_false hlacks hnamed (ihdeep (hbelow hnamed hreached habove)) (ihrest hrest)

end

/-- In whatever way classes name each other, the plain lookup ends, and in one way only: with the value that the search
with a visited set answers, with nothing where that answers the default, or with its fault. Where no entity is a class of
itself, nothing needs to be barred for this. -/
theorem attr_walks (ws : Workspace) (x : EntityRef) (name : String) (default : Value) :
    ∃ outcome : Outcome, ws.attr x name default = outcome.map (·.getD default) ∧
      (∀ other, ws.Walked name OnPath [x] [] other ↔ other = outcome) ∧
      (ws.Acyclic x → ∀ other, ws.Walked name Unbarred [x] [] other ↔ other = outcome) := by
  obtain ⟨result, hsearched, hattr⟩ := searched_attr? ws name x
  have hwalked := hsearched.walked [] (List.Subset.refl _) fun r hr => absurd hr List.not_mem_nil
  refine ⟨result.map (·.1), by rw [attr, hattr], ?_, fun hacyclic => ?_⟩
  · exact fun other => ⟨hwalked.unique, fun heq => heq ▸ hwalked⟩
  · have hunbarred := hwalked.unbarred hacyclic fun c hc => by
      obtain rfl := List.mem_singleton.mp hc
      exact ⟨.refl, fun p hp => absurd hp List.not_mem_nil⟩
    exact fun other => ⟨hunbarred.unique, fun heq => heq ▸ hunbarred⟩

theorem acyclic_of_rank {ws : Workspace} (x : EntityRef) (rank : EntityRef → Nat)
    (h : ∀ r c, ws.NamesClass r c → rank r < rank c) : ws.Acyclic x := by
  have hless : ∀ r s, Relation.TransGen ws.NamesClass r s → rank r < rank s := by
    intro r s hpath
    induction hpath with
    | single hnames => exact h _ _ hnames
    | tail _ hnames ih => exact ih.trans (h _ _ hnames)
  exact fun r _ hloop => (hless r r hloop).false

/-- Two ways from a state to one class, which has nothing; only after it, the second way has what is looked for. -/
def lozenge : Workspace := filled "m"
  [{ id := "s", classIds := ["left", "right"], detail := .state [] [] none },
   { id := "left", classIds := ["base"], detail := .bundle },
   { id := "right", classIds := ["base", "last"], detail := .bundle },
   { id := "base", attrs := [(.text "lang", .text "c")], detail := .bundle },
   { id := "last", attrs := [(.text "size", .text "xl")], detail := .bundle }]

theorem attr_walks_lozenge : lozenge.Acyclic ⟨1⟩ ∧ lozenge.attr ⟨1⟩ "size" .null = .ok (.text "xl") ∧
    ∃ outcome : Outcome, lozenge.attr ⟨1⟩ "size" .null = outcome.map (·.getD .null) ∧
      ∀ other, lozenge.Walked "size" Unbarred [⟨1⟩] [] other ↔ other = outcome := by
  have hacyclic : lozenge.Acyclic ⟨1⟩ := by
    refine acyclic_of_rank _ EntityRef.index fun r c hnames => ?_
    obtain ⟨classes, hclasses, hc⟩ := hnames
    by_cases hr : r.index < lozenge.entities.length
    · have hlater : ∀ i < lozenge.entities.length, ∀ classes ∈ (lozenge.classesOf ⟨i⟩).toOption,
          ∀ c ∈ classes, i < c.index := by
        decide +kernel
      exact hlater r.index hr classes (by rw [hclasses]; rfl) c hc
    · rw [classesOf_of_not_lt r hr] at hclasses
      obtain rfl := Except.ok.inj hclasses
      cases hc
  obtain ⟨outcome, hattr, _, hunbarred⟩ := attr_walks lozenge ⟨1⟩ "size" .null
  exact ⟨hacyclic, rfl, outcome, hattr, hunbarred hacyclic⟩

end StateMachine.Workspace
