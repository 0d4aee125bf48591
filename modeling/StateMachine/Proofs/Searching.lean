import StateMachine.Proofs.Inheriting
import StateMachine.Proofs.Numbering
import StateMachine.Proofs.Operations

/-!
# Searching without fuel

The search for an attribute as rules, in which nothing bounds its depth. By these rules every search ends, in one way
only, and the fuel never runs out. Where all class ids name classes, it finds what some entity that it can reach has.
-/

namespace StateMachine.Workspace

/-! ## The rules -/

/-- An entity that was not entered before and lacks the attribute passes the search on to its classes. -/
structure Opens (ws : Workspace) (name : String) (seen : List EntityRef) (c : EntityRef) (classes : List EntityRef) :
    Prop where
  fresh : c ∉ seen
  lacks : Value.field? (ws.entity c).attrs name = none
  classes : ws.classesOf c = .ok classes

/-- How the search through some entities, one after the other, ends. The second list is what was entered before. -/
inductive Searched (ws : Workspace) (name : String) : List EntityRef → List EntityRef → Search → Prop
  | exhausted (seen : List EntityRef) : Searched ws name [] seen (.ok (none, seen))
  | skipped {c : EntityRef} {rest seen : List EntityRef} {result : Search} (hseen : c ∈ seen)
      (hrest : Searched ws name rest seen result) : Searched ws name (c :: rest) seen result
  | own {c : EntityRef} {rest seen : List EntityRef} {v : Value} (hfresh : c ∉ seen)
      (hown : Value.field? (ws.entity c).attrs name = some v) :
      Searched ws name (c :: rest) seen (.ok (some v, c :: seen))
  | refused {c : EntityRef} {rest seen : List EntityRef} {fault : Fault} (hfresh : c ∉ seen)
      (hlacks : Value.field? (ws.entity c).attrs name = none) (hclasses : ws.classesOf c = .error fault) :
      Searched ws name (c :: rest) seen (.error fault)
  | failed {c : EntityRef} {classes rest seen : List EntityRef} {fault : Fault} (hopens : Opens ws name seen c classes)
      (hdeep : Searched ws name classes (c :: seen) (.error fault)) : Searched ws name (c :: rest) seen (.error fault)
  | inherited {c : EntityRef} {classes rest seen entered : List EntityRef} {v : Value}
      (hopens : Opens ws name seen c classes) (hdeep : Searched ws name classes (c :: seen) (.ok (some v, entered))) :
      Searched ws name (c :: rest) seen (.ok (some v, entered))
  | further {c : EntityRef} {classes rest seen entered : List EntityRef} {result : Search}
      (hopens : Opens ws name seen c classes) (hdeep : Searched ws name classes (c :: seen) (.ok (none, entered)))
      (hrest : Searched ws name rest entered result) : Searched ws name (c :: rest) seen result

/-! ## The search that is bounded -/

section
variable {ws : Workspace} {name : String}

/-! ### One entity after the other -/

section
variable {fuel : Nat} {c : EntityRef} {rest seen entered : List EntityRef}

theorem foldlM_of_found {v : Value} (h : ws.searchClass name fuel (none, seen) c = .ok (some v, entered)) :
    (c :: rest).foldlM (ws.searchClass name fuel) (none, seen) = .ok (some v, entered) := by
  rw [List.foldlM_cons, h]
  exact foldlM_searchClass_some ws name fuel rest v entered

theorem foldlM_of_failed {fault : Fault} (h : ws.searchClass name fuel (none, seen) c = .error fault) :
    (c :: rest).foldlM (ws.searchClass name fuel) (none, seen) = .error fault := by
  rw [List.foldlM_cons, h]
  rfl

theorem foldlM_of_none (h : ws.searchClass name fuel (none, seen) c = .ok (none, entered)) :
    (c :: rest).foldlM (ws.searchClass name fuel) (none, seen) =
      rest.foldlM (ws.searchClass name fuel) (none, entered) := by
  rw [List.foldlM_cons, h]
  rfl

end

/-! ### One entity -/

section
variable {c : EntityRef} {seen : List EntityRef} (fuel : Nat)

theorem searchClass_of_mem (h : c ∈ seen) : ws.searchClass name (fuel + 1) (none, seen) c = .ok (none, seen) := by
  rw [searchClass, searchAttr_succ, if_pos (List.contains_iff_mem.mpr h)]

theorem searchClass_of_not_mem (h : c ∉ seen) :
    ws.searchClass name (fuel + 1) (none, seen) c = ws.enterAttr name fuel seen c := by
  rw [searchClass, searchAttr_succ, if_neg (by rwa [List.contains_iff_mem])]

theorem searchClass_of_own (h : c ∉ seen) {v : Value} (hown : Value.field? (ws.entity c).attrs name = some v) :
    ws.searchClass name (fuel + 1) (none, seen) c = .ok (some v, c :: seen) := by
  rw [searchClass_of_not_mem fuel h, enterAttr, hown]

theorem searchClass_of_refused (h : c ∉ seen) (hlacks : Value.field? (ws.entity c).attrs name = none) {fault : Fault}
    (hclasses : ws.classesOf c = .error fault) : ws.searchClass name (fuel + 1) (none, seen) c = .error fault := by
  rw [searchClass_of_not_mem fuel h, enterAttr, hlacks, hclasses]
  rfl

/-- What the fuel bounds is the depth: below an entity there is one unit less than beside it. -/
theorem searchClass_of_opens {classes : List EntityRef} (h : ws.Opens name seen c classes) :
    ws.searchClass name (fuel + 1) (none, seen) c =
      classes.foldlM (ws.searchClass name fuel) (none, c :: seen) := by
  rw [searchClass_of_not_mem fuel h.fresh, enterAttr, h.lacks, h.classes]
  rfl

end

/-! ## One way only -/

/-- With fuel enough, the search that is bounded by fuel ends as the rules say. -/
theorem Searched.exists_fuel {classes seen : List EntityRef} {result : Search}
    (h : ws.Searched name classes seen result) :
    ∃ least, ∀ fuel, least ≤ fuel → classes.foldlM (ws.searchClass name (fuel + 1)) (none, seen) = result := by
  induction h with
  | exhausted => exact ⟨0, fun _ _ => rfl⟩
  | skipped hseen _ ih =>
    obtain ⟨least, ih⟩ := ih
    exact ⟨least, fun fuel hfuel => (foldlM_of_none (searchClass_of_mem fuel hseen)).trans (ih fuel hfuel)⟩
  | own hfresh hown => exact ⟨0, fun fuel _ => foldlM_of_found (searchClass_of_own fuel hfresh hown)⟩
  | refused hfresh hlacks hclasses =>
    exact ⟨0, fun fuel _ => foldlM_of_failed (searchClass_of_refused fuel hfresh hlacks hclasses)⟩
  | failed hopens _ ih =>
    obtain ⟨least, ih⟩ := ih
    refine ⟨least + 1, fun fuel hfuel => foldlM_of_failed ((searchClass_of_opens fuel hopens).trans ?_)⟩
    obtain ⟨fuel, rfl⟩ := Nat.exists_eq_add_of_le' hfuel
    exact ih _ (Nat.le_add_left least fuel)
  | inherited hopens _ ih =>
    obtain ⟨least, ih⟩ := ih
    refine ⟨least + 1, fun fuel hfuel => foldlM_of_found ((searchClass_of_opens fuel hopens).trans ?_)⟩
    obtain ⟨fuel, rfl⟩ := Nat.exists_eq_add_of_le' hfuel
    exact ih _ (Nat.le_add_left least fuel)
  | further hopens _ _ ihdeep ihrest =>
    obtain ⟨below, ihdeep⟩ := ihdeep
    obtain ⟨beside, ihrest⟩ := ihrest
    -- Only going below costs fuel; what comes beside starts with as much.
    refine ⟨max beside (below + 1), fun fuel hfuel => ?_⟩
    have hbelow : ∃ deeper, fuel = deeper + 1 ∧ below ≤ deeper := ⟨fuel - 1, by omega, by omega⟩
    obtain ⟨deeper, rfl, hdeeper⟩ := hbelow
    refine (foldlM_of_none ((searchClass_of_opens _ hopens).trans (ihdeep deeper hdeeper))).trans ?_
    exact ihrest _ (by omega)

theorem Searched.unique {classes seen : List EntityRef} {result other : Search}
    (h : ws.Searched name classes seen result) (h' : ws.Searched name classes seen other) : other = result := by
  obtain ⟨least, hleast⟩ := h.exists_fuel
  obtain ⟨least', hleast'⟩ := h'.exists_fuel
  rw [← hleast (max least least') (by omega), ← hleast' (max least least') (by omega)]

/-! ## What was entered -/

/-- A search that finds nothing has entered all that it was to go through. What it entered lacks the attribute, and the
classes of this are entered as well. -/
theorem Searched.closed {classes seen entered : List EntityRef}
    (h : ws.Searched name classes seen (.ok (none, entered))) : seen ⊆ entered ∧ classes ⊆ entered ∧
      ∀ r ∈ entered, r ∈ seen ∨ Value.field? (ws.entity r).attrs name = none ∧
        ∃ named, ws.classesOf r = .ok named ∧ named ⊆ entered := by
  generalize hend : (.ok (none, entered) : Search) = result at h
  induction h generalizing entered with
  | exhausted seen =>
    obtain rfl := (Prod.mk.inj (Except.ok.inj hend)).2
    exact ⟨List.Subset.refl _, List.nil_subset _, fun r hr => Or.inl hr⟩
  | skipped hseen _ ih =>
    obtain ⟨hold, hrest, hentered⟩ := ih hend
    exact ⟨hold, List.cons_subset.mpr ⟨hold hseen, hrest⟩, hentered⟩
  | own => cases (Prod.mk.inj (Except.ok.inj hend)).1
  | refused => cases hend
  | failed => cases hend
  | inherited => cases (Prod.mk.inj (Except.ok.inj hend)).1
  | further hopens _ _ ihdeep ihrest =>
    obtain ⟨hc, hbelow, hdeep⟩ := ihdeep rfl
    obtain ⟨hgrown, hrest, hentered⟩ := ihrest hend
    obtain ⟨hc, hold⟩ := List.cons_subset.mp hc
    refine ⟨List.Subset.trans hold hgrown, List.cons_subset.mpr ⟨hgrown hc, hrest⟩, fun r hr => ?_⟩
    -- The class itself counts as seen below it. It is closed now, since its classes have been gone through.
    rcases hentered r hr with hthere | hlater
    · rcases hdeep r hthere with hseen | ⟨hlacks, named, hnamed, hin⟩
      · rcases List.mem_cons.mp hseen with rfl | hseen
        · exact Or.inr ⟨hopens.lacks, _, hopens.classes, List.Subset.trans hbelow hgrown⟩
        · exact Or.inl hseen
      · exact Or.inr ⟨hlacks, named, hnamed, List.Subset.trans hin hgrown⟩
    · exact Or.inr hlater

/-- A search ends at this entity: with the attribute that it has, or because its classes cannot be looked up. -/
inductive EndsAt (ws : Workspace) (name : String) (r : EntityRef) : Search → Prop
  | owned {v : Value} {entered : List EntityRef} (hown : Value.field? (ws.entity r).attrs name = some v) :
      EndsAt ws name r (.ok (some v, entered))
  | refused {fault : Fault} (hclasses : ws.classesOf r = .error fault) : EndsAt ws name r (.error fault)

/-- Unless a search finds nothing, it ends at an entity that it can reach. -/
theorem Searched.exists_end {classes seen : List EntityRef} {result : Search}
    (h : ws.Searched name classes seen result) (hends : ∀ entered, result ≠ .ok (none, entered)) :
    ∃ c ∈ classes, ∃ r, ws.Inherits c r ∧ ws.EndsAt name r result := by
  induction h with
  | exhausted seen => exact absurd rfl (hends seen)
  | skipped _ _ ih =>
    obtain ⟨c, hc, hreached⟩ := ih hends
    exact ⟨c, List.mem_cons_of_mem _ hc, hreached⟩
  | own _ hown => exact ⟨_, List.mem_cons_self, _, .refl, .owned hown⟩
  | refused _ _ hclasses => exact ⟨_, List.mem_cons_self, _, .refl, .refused hclasses⟩
  | failed hopens _ ih =>
    obtain ⟨d, hd, r, hreached, hr⟩ := ih hends
    exact ⟨_, List.mem_cons_self, r, .head ⟨_, hopens.classes, hd⟩ hreached, hr⟩
  | inherited hopens _ ih =>
    obtain ⟨d, hd, r, hreached, hr⟩ := ih hends
    exact ⟨_, List.mem_cons_self, r, .head ⟨_, hopens.classes, hd⟩ hreached, hr⟩
  | further _ _ _ _ ihrest =>
    obtain ⟨c, hc, hreached⟩ := ihrest hends
    exact ⟨c, List.mem_cons_of_mem _ hc, hreached⟩

theorem Searched.exists_owner {x : EntityRef} {seen entered : List EntityRef} {v : Value}
    (h : ws.Searched name [x] seen (.ok (some v, entered))) :
    ∃ r, ws.Inherits x r ∧ Value.field? (ws.entity r).attrs name = some v := by
  obtain ⟨c, hc, r, hr, hend⟩ := h.exists_end (by simp)
  cases hend with
  | owned hown => exact ⟨r, List.mem_singleton.mp hc ▸ hr, hown⟩

theorem Searched.exists_refused {x : EntityRef} {seen : List EntityRef} {fault : Fault}
    (h : ws.Searched name [x] seen (.error fault)) : ∃ r, ws.Inherits x r ∧ ws.classesOf r = .error fault := by
  obtain ⟨c, hc, r, hr, hend⟩ := h.exists_end (by simp)
  cases hend with
  | refused hclasses => exact ⟨r, List.mem_singleton.mp hc ▸ hr, hclasses⟩

/-! ## Every search ends -/

/-- An entity that is not there names no classes. -/
theorem classesOf_of_not_lt (r : EntityRef) (h : ¬ r.index < ws.entities.length) : ws.classesOf r = .ok [] := by
  rw [classesOf, entity_eq, List.getElem?_eq_none (by omega)]
  rfl

/-- Below an entity fewer entities are left to enter, so that the fuel suffices. -/
theorem searched_foldlM (fuel : Nat) (classes seen : List EntityRef)
    (hfuel : unentered ws.entities.length seen < fuel) :
    ws.Searched name classes seen (classes.foldlM (ws.searchClass name fuel) (none, seen)) := by
  induction fuel generalizing classes seen with
  | zero => omega
  | succ fuel ihfuel =>
    induction classes generalizing seen with
    | nil => exact .exhausted seen
    | cons c rest ihrest =>
      by_cases hseen : c ∈ seen
      · rw [foldlM_of_none (searchClass_of_mem fuel hseen)]
        exact .skipped hseen (ihrest seen hfuel)
      cases hlacks : Value.field? (ws.entity c).attrs name with
      | some v =>
        rw [foldlM_of_found (searchClass_of_own fuel hseen hlacks)]
        exact .own hseen hlacks
      | none =>
        cases hclasses : ws.classesOf c with
        | error fault =>
          rw [foldlM_of_failed (searchClass_of_refused fuel hseen hlacks hclasses)]
          exact .refused hseen hlacks hclasses
        | ok named =>
          have hopens : ws.Opens name seen c named := ⟨hseen, hlacks, hclasses⟩
          have hdeep : ws.Searched name named (c :: seen)
              (named.foldlM (ws.searchClass name fuel) (none, c :: seen)) := by
            by_cases hc : c.index < ws.entities.length
            · have hless := unentered_cons_lt ws.entities.length seen c hc hseen
              exact ihfuel named (c :: seen) (by omega)
            · rw [classesOf_of_not_lt c hc] at hclasses
              rw [← Except.ok.inj hclasses]
              exact .exhausted _
          have hclass := searchClass_of_opens fuel hopens
          cases hbelow : named.foldlM (ws.searchClass name fuel) (none, c :: seen) with
          | error fault =>
            rw [hbelow] at hdeep hclass
            rw [foldlM_of_failed hclass]
            exact .failed hopens hdeep
          | ok state =>
            obtain ⟨found, entered⟩ := state
            rw [hbelow] at hdeep hclass
            cases found with
            | some v =>
              rw [foldlM_of_found hclass]
              exact .inherited hopens hdeep
            | none =>
              -- A search never forgets, so that no more is left to enter for the rest.
              have hgrown := List.Subset.trans (List.subset_cons_self c seen) hdeep.closed.1
              have hfewer := unentered_mono ws.entities.length hgrown
              rw [foldlM_of_none hclass]
              exact .further hopens hdeep (ihrest entered (by omega))

theorem searched_attr? (ws : Workspace) (name : String) (r : EntityRef) :
    ∃ result, ws.Searched name [r] [] result ∧ ws.attr? r name = result.map (·.1) := by
  have hall : unentered ws.entities.length [] ≤ ws.entities.length :=
    (Finset.card_filter_le _ _).trans (Finset.card_range _).le
  refine ⟨_, searched_foldlM (ws.entities.length + 1) [r] [] (by omega), ?_⟩
  rw [List.foldlM_cons, attr?]
  exact congrArg _ (bind_pure _).symm

/-! ## What is found -/

/-- The kind of what an entity finds under an id, in the machine that it belongs to. -/
def namedKind? (ws : Workspace) (r : EntityRef) (id : String) : Option Kind :=
  (ws.entity r).machine.bind fun m => ((ws.machine m).registry.find? id).map ws.kindOf

theorem findFrom_of_namedKind (r : EntityRef) (id : String) {fault : Fault}
    (h : ws.findFrom (ws.entity r) .bundle (some id) = .error fault) :
    ∃ kind ∈ ws.namedKind? r id, kind ≠ .bundle ∧ fault = .kindMismatch id "class" kind.name := by
  unfold findFrom at h
  split at h
  case h_1 m hmachine =>
    rw [find, lookup, Registry.lookup_eq_error_iff] at h
    obtain ⟨_, held, wanted, hid, hheld, hwanted, hother, rfl⟩ := h
    obtain rfl := Option.some.inj hid
    obtain rfl := Option.some.inj hwanted
    refine ⟨ws.kindOf held, ?_, fun heq => hother (congrArg Kind.name heq), rfl⟩
    rw [namedKind?, hmachine, Option.bind_some, hheld]
    rfl
  case h_2 => cases h

/-- Classes cannot be looked up only because of an id that names something else. -/
theorem exists_misnamed_of_classesOf (r : EntityRef) {fault : Fault} (h : ws.classesOf r = .error fault) :
    ∃ id ∈ (ws.entity r).classIds, ∃ kind ∈ ws.namedKind? r id,
      kind ≠ .bundle ∧ fault = .kindMismatch id "class" kind.name := by
  obtain ⟨id, hid, hfault⟩ := exists_refused_of_findAll h
  exact ⟨id, hid, findFrom_of_namedKind r id hfault⟩

theorem attr?_of_own (r : EntityRef) {v : Value} (h : Value.field? (ws.entity r).attrs name = some v) :
    ws.attr? r name = .ok (some v) := by
  rw [attr?_eq, enterAttr, h]
  rfl

/-- Where nothing is found, nothing that can be reached has the attribute: what was entered is closed under classes. -/
theorem lacks_of_searched {x : EntityRef} {entered : List EntityRef}
    (h : ws.Searched name [x] [] (.ok (none, entered))) (r : EntityRef) (hr : ws.Inherits x r) :
    r ∈ entered ∧ Value.field? (ws.entity r).attrs name = none := by
  obtain ⟨_, hin, hclosed⟩ := h.closed
  have hentered : r ∈ entered := by
    induction hr with
    | refl => exact hin List.mem_cons_self
    | tail _ hnames ih =>
      obtain ⟨classes, hclasses, hc⟩ := hnames
      obtain ⟨_, named, hnamed, hsubset⟩ := (hclosed _ ih).resolve_left List.not_mem_nil
      rw [hclasses] at hnamed
      exact hsubset (Except.ok.inj hnamed ▸ hc)
  exact ⟨hentered, ((hclosed r hentered).resolve_left List.not_mem_nil).1⟩

end

/-- In whatever way classes name each other, the search for an attribute ends, and in one way only. If all class ids that
it can meet name classes or nothing, it finds nothing exactly if nothing that it can reach has the attribute, and else
what one of these has. What the entity has itself comes first. Only an id that names no class makes it fail. -/
theorem attr_reaches (ws : Workspace) (x : EntityRef) (name : String) (default : Value) :
    (∃ result, (∀ other, ws.Searched name [x] [] other ↔ other = result) ∧ ws.attr? x name = result.map (·.1)) ∧
    ((∀ r, ws.Inherits x r → ∀ id ∈ (ws.entity r).classIds, ∀ kind ∈ ws.namedKind? r id, kind = .bundle) →
      ∃ found, ws.attr? x name = .ok found ∧ ws.attr x name default = .ok (found.getD default) ∧
        (found = none ↔ ∀ r, ws.Inherits x r → Value.field? (ws.entity r).attrs name = none) ∧
        ∀ v ∈ found, ∃ r, ws.Inherits x r ∧ Value.field? (ws.entity r).attrs name = some v) ∧
    (∀ v, Value.field? (ws.entity x).attrs name = some v → ws.attr x name default = .ok v) ∧
    ∀ fault, ws.attr x name default = .error fault → ∃ r, ws.Inherits x r ∧ ∃ id ∈ (ws.entity r).classIds,
      ∃ kind ∈ ws.namedKind? r id, kind ≠ .bundle ∧ fault = .kindMismatch id "class" kind.name := by
  obtain ⟨result, hsearched, hattr⟩ := searched_attr? ws name x
  have hfails : ∀ fault, result = .error fault → ∃ r, ws.Inherits x r ∧ ∃ id ∈ (ws.entity r).classIds,
      ∃ kind ∈ ws.namedKind? r id, kind ≠ .bundle ∧ fault = .kindMismatch id "class" kind.name := by
    rintro fault rfl
    obtain ⟨r, hr, hrefused⟩ := hsearched.exists_refused
    exact ⟨r, hr, exists_misnamed_of_classesOf r hrefused⟩
  refine ⟨⟨result, fun other => ⟨hsearched.unique, fun heq => heq ▸ hsearched⟩, hattr⟩, ?_, ?_, ?_⟩
  · intro hclasses
    cases result with
    | error fault =>
      obtain ⟨r, hr, id, hid, kind, hkind, hne, _⟩ := hfails fault rfl
      exact absurd (hclasses r hr id hid kind hkind) hne
    | ok state =>
      obtain ⟨found, entered⟩ := state
      refine ⟨found, hattr, by rw [attr, hattr]; rfl, ?_, ?_⟩
      · constructor
        · rintro rfl r hr
          exact (lacks_of_searched hsearched r hr).2
        · intro hnone
          cases found with
          | none => rfl
          | some v =>
            obtain ⟨r, hr, hown⟩ := hsearched.exists_owner
            rw [hnone r hr] at hown
            cases hown
      · rintro v rfl
        exact hsearched.exists_owner
  · intro v hown
    rw [attr, attr?_of_own x hown]
    rfl
  · intro fault hfault
    apply hfails
    rw [attr, hattr] at hfault
    cases result with
    | error other => exact congrArg _ (Except.error.inj hfault)
    | ok state => cases hfault

/-- Classes that name each other and themselves, a class id that names nothing, and an event with one that names a
state. -/
def tangled : Workspace := filled "m"
  [{ id := "a", classIds := ["b", "c", "b"], detail := .bundle }, { id := "b", classIds := ["d"], detail := .bundle },
   { id := "c", classIds := ["gone", "a", "d"], detail := .bundle },
   { id := "d", classIds := ["d"], attrs := [(.text "lang", .text "c")], detail := .bundle },
   { id := "s", classIds := ["a"], detail := .state [] [] none },
   { id := "go", classIds := ["c", "s"], detail := .event none }]

theorem attr_reaches_tangled :
    (∀ r, tangled.Inherits ⟨5⟩ r → ∀ id ∈ (tangled.entity r).classIds, ∀ kind ∈ tangled.namedKind? r id,
      kind = .bundle) ∧
    (∃ found, tangled.attr? ⟨5⟩ "size" = .ok found ∧
      (found = none ↔ ∀ r, tangled.Inherits ⟨5⟩ r → Value.field? (tangled.entity r).attrs "size" = none)) ∧
    tangled.attr ⟨4⟩ "lang" .null = .ok (.text "c") ∧
    ∃ fault, tangled.attr ⟨6⟩ "size" .null = .error fault ∧ ∃ r, tangled.Inherits ⟨6⟩ r ∧
      ∃ id ∈ (tangled.entity r).classIds, ∃ kind ∈ tangled.namedKind? r id,
        kind ≠ .bundle ∧ fault = .kindMismatch id "class" kind.name := by
  have hclasses : ∀ r, tangled.Inherits ⟨5⟩ r → ∀ id ∈ (tangled.entity r).classIds,
      ∀ kind ∈ tangled.namedKind? r id, kind = .bundle := by
    intro r hr
    -- Only the event has an id that names no class, and no class names the event.
    have hbefore : r ∈ ([1, 2, 3, 4, 5].map EntityRef.mk) := by
      induction hr with
      | refl => decide
      | tail _ hnames ih =>
        obtain ⟨classes, hclasses, hc⟩ := hnames
        have hclosed : ∀ r ∈ [1, 2, 3, 4, 5].map EntityRef.mk, ∀ classes ∈ (tangled.classesOf r).toOption,
            ∀ c ∈ classes, c ∈ [1, 2, 3, 4, 5].map EntityRef.mk := by
          decide +kernel
        exact hclosed _ ih classes (by rw [hclasses]; rfl) _ hc
    clear hr
    revert r
    decide +kernel
  obtain ⟨_, hfound, _, _⟩ := attr_reaches tangled ⟨5⟩ "size" .null
  obtain ⟨found, hfound, _, hnone, _⟩ := hfound hclasses
  obtain ⟨_, _, hown, _⟩ := attr_reaches tangled ⟨4⟩ "lang" .null
  obtain ⟨_, _, _, hfails⟩ := attr_reaches tangled ⟨6⟩ "size" .null
  refine ⟨hclasses, ⟨found, hfound, hnone⟩, hown _ rfl, ?_⟩
  have hfault : ∃ fault, tangled.attr ⟨6⟩ "size" .null = .error fault := ⟨_, rfl⟩
  obtain ⟨fault, hfault⟩ := hfault
  exact ⟨fault, hfault, hfails fault hfault⟩

end StateMachine.Workspace
