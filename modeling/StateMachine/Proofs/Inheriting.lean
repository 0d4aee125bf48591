import Mathlib.Data.Finset.Card
import Mathlib.Logic.Relation
import StateMachine.Inheritance
import StateMachine.Proofs.Bare

/-!
# Inheriting in two workspaces

A search for an attribute never enters an entity twice, so the fuel is only a bound. Where two workspaces agree on a set
of entities that classes do not lead out of, both give the same answers about them.
-/

namespace StateMachine

/-! ## What lookups read -/

/-- What lookups read of an entity, apart from the machine that it belongs to. -/
structure Links where
  attrs : Dict
  classIds : List String
  handlerIds : List String
  entryIds : List String
  exitIds : List String

/-- All ids under which an entity looks for actions. -/
def Links.actionIds (links : Links) : List String := links.handlerIds ++ links.entryIds ++ links.exitIds

def Entity.links (e : Entity) : Links := ⟨e.attrs, e.classIds, e.transition.handlerIds, e.entryIds, e.exitIds⟩

@[simp]
theorem Entity.links_unnumbered (e : Entity) : e.unnumbered.links = e.links := by
  cases hd : e.detail <;> simp [unnumbered, withNumber, links, transition, entryIds, exitIds, hd]

namespace Workspace

/-- The entity finds the classes and actions that the other one finds in the other workspace. -/
structure FindsAs (ws : Workspace) (r : EntityRef) (ws' : Workspace) (r' : EntityRef) : Prop where
  classes : ws'.classesOf r' = ws.classesOf r
  handlers : ws'.handlersOf r' = ws.handlersOf r
  entryHandlers : ws'.entryHandlersOf r' = ws.entryHandlersOf r
  exitHandlers : ws'.exitHandlersOf r' = ws.exitHandlersOf r

/-- The entity has the attributes of the other one, too. -/
structure Answers (ws : Workspace) (r : EntityRef) (ws' : Workspace) (r' : EntityRef) : Prop
    extends FindsAs ws r ws' r' where
  attr : ∀ name default, ws'.attr r' name default = ws.attr r name default

/-! ## Looking up -/

theorem findAll_congr {ws ws' : Workspace} {e e' : Entity} (kind : Kind) (ids : List String)
    (h : ∀ id ∈ ids, ws'.findFrom e' kind (some id) = ws.findFrom e kind (some id)) :
    ws'.findAll e' kind ids = ws.findAll e kind ids := by
  induction ids with
  | nil => rfl
  | cons id rest ih =>
    obtain ⟨hid, hrest⟩ := List.forall_mem_cons.mp h
    rw [findAll, findAll, hid, ih hrest]

theorem mem_of_findAll {ws : Workspace} {e : Entity} {kind : Kind} {ids : List String} {found : List EntityRef}
    (h : ws.findAll e kind ids = .ok found) (c : EntityRef) (hc : c ∈ found) :
    ∃ id ∈ ids, ws.findFrom e kind (some id) = .ok (some c) := by
  induction ids generalizing found with
  | nil =>
    rw [findAll] at h
    obtain rfl := Except.ok.inj h
    cases hc
  | cons id rest ih =>
    rw [findAll] at h
    cases hid : ws.findFrom e kind (some id) with
    | error fault =>
      rw [hid] at h
      cases h
    | ok first =>
      cases hrest : ws.findAll e kind rest with
      | error fault =>
        rw [hid, hrest] at h
        cases h
      | ok others =>
        rw [hid, hrest] at h
        obtain rfl := Except.ok.inj h
        rcases List.mem_append.mp hc with hc | hc
        · rw [Option.mem_toList] at hc
          exact ⟨id, List.mem_cons_self, hid.trans (congrArg Except.ok hc)⟩
        · obtain ⟨other, hother, hfound⟩ := ih hrest hc
          exact ⟨other, List.mem_cons_of_mem _ hother, hfound⟩

/-- A list of ids cannot be looked up because of one of them. -/
theorem exists_refused_of_findAll {ws : Workspace} {e : Entity} {kind : Kind} {ids : List String} {fault : Fault}
    (h : ws.findAll e kind ids = .error fault) : ∃ id ∈ ids, ws.findFrom e kind (some id) = .error fault := by
  induction ids with
  | nil => cases h
  | cons id rest ih =>
    rw [findAll] at h
    cases hid : ws.findFrom e kind (some id) with
    | error other =>
      rw [hid] at h
      obtain rfl := Except.error.inj h
      exact ⟨id, List.mem_cons_self, hid⟩
    | ok first =>
      cases hrest : ws.findAll e kind rest with
      | error other =>
        rw [hid, hrest] at h
        obtain rfl := Except.error.inj h
        obtain ⟨other, hother, hrefused⟩ := ih hrest
        exact ⟨other, List.mem_cons_of_mem _ hother, hrefused⟩
      | ok others =>
        rw [hid, hrest] at h
        cases h

/-- An entity whose ids are looked up as those of the other one finds what it finds. -/
theorem findsAs_of_links {ws ws' : Workspace} {r r' : EntityRef} (hlinks : (ws'.entity r').links = (ws.entity r).links)
    (hclasses : ∀ id ∈ (ws.entity r).links.classIds,
      ws'.findFrom (ws'.entity r') .bundle (some id) = ws.findFrom (ws.entity r) .bundle (some id))
    (hactions : ∀ id ∈ (ws.entity r).links.actionIds,
      ws'.findFrom (ws'.entity r') .action (some id) = ws.findFrom (ws.entity r) .action (some id)) :
    FindsAs ws r ws' r' := by
  have hclassIds : (ws'.entity r').classIds = (ws.entity r).classIds := congrArg Links.classIds hlinks
  have hhandlerIds : (ws'.entity r').transition.handlerIds = (ws.entity r).transition.handlerIds :=
    congrArg Links.handlerIds hlinks
  have hentryIds : (ws'.entity r').entryIds = (ws.entity r).entryIds := congrArg Links.entryIds hlinks
  have hexitIds : (ws'.entity r').exitIds = (ws.entity r).exitIds := congrArg Links.exitIds hlinks
  constructor
  · rw [classesOf, hclassIds, classesOf]
    exact findAll_congr .bundle _ hclasses
  · rw [handlersOf, actionsOf, hhandlerIds, handlersOf, actionsOf]
    exact findAll_congr .action _ fun id hid => hactions id (List.mem_append_left _ (List.mem_append_left _ hid))
  · rw [entryHandlersOf, actionsOf, hentryIds, entryHandlersOf, actionsOf]
    exact findAll_congr .action _ fun id hid => hactions id (List.mem_append_left _ (List.mem_append_right _ hid))
  · rw [exitHandlersOf, actionsOf, hexitIds, exitHandlersOf, actionsOf]
    exact findAll_congr .action _ fun id hid => hactions id (List.mem_append_right _ hid)

/-! ## Searching -/

/-- What a search has found so far, and the entities it has entered. -/
abbrev Search := Except Fault (Option Value × List EntityRef)

/-- Searches one more class, unless the attribute is found already. -/
def searchClass (ws : Workspace) (name : String) (fuel : Nat) (state : Option Value × List EntityRef)
    (c : EntityRef) : Search :=
  match state.1 with
  | some v => .ok (some v, state.2)
  | none => ws.searchAttr name fuel state.2 c

/-- Searches an entity that was not entered before. -/
def enterAttr (ws : Workspace) (name : String) (fuel : Nat) (seen : List EntityRef) (r : EntityRef) : Search :=
  match Value.field? (ws.entity r).attrs name with
  | some v => .ok (some v, r :: seen)
  | none => do
    let classes ← ws.classesOf r
    classes.foldlM (ws.searchClass name fuel) (none, r :: seen)

theorem searchAttr_succ (ws : Workspace) (name : String) (fuel : Nat) (seen : List EntityRef) (r : EntityRef) :
    ws.searchAttr name (fuel + 1) seen r =
      if seen.contains r then .ok (none, seen) else ws.enterAttr name fuel seen r := by
  rw [enterAttr]
  rfl

theorem attr?_eq (ws : Workspace) (r : EntityRef) (name : String) :
    ws.attr? r name = (ws.enterAttr name ws.entities.length [] r).map (·.1) := by
  rw [attr?, searchAttr_succ]
  rfl

/-! ## What is entered -/

section
variable (ws : Workspace) (name : String)

theorem foldlM_searchClass_some (fuel : Nat) (classes : List EntityRef) (v : Value) (seen : List EntityRef) :
    classes.foldlM (ws.searchClass name fuel) (some v, seen) = .ok (some v, seen) := by
  induction classes with
  | nil => rfl
  | cons c rest ih => exact ih

/-- A search only enters more entities. -/
theorem subset_of_searchAttr (fuel : Nat) (seen : List EntityRef) (r : EntityRef) (found : Option Value)
    (entered : List EntityRef) (h : ws.searchAttr name fuel seen r = .ok (found, entered)) : seen ⊆ entered := by
  induction fuel generalizing seen r found entered with
  | zero =>
    rw [searchAttr] at h
    rw [(Prod.mk.inj (Except.ok.inj h)).2]
    exact List.Subset.refl _
  | succ fuel ih =>
    -- What one class enters stays entered while the others are searched.
    have hfold : ∀ (classes : List EntityRef) (seen entered : List EntityRef) (found : Option Value),
        classes.foldlM (ws.searchClass name fuel) (none, seen) = .ok (found, entered) → seen ⊆ entered := by
      intro classes
      induction classes with
      | nil =>
        intro seen entered found h
        rw [(Prod.mk.inj (Except.ok.inj h)).2]
        exact List.Subset.refl _
      | cons c rest ihrest =>
        intro seen entered found h
        rw [List.foldlM_cons, searchClass] at h
        cases hc : ws.searchAttr name fuel seen c with
        | error fault =>
          rw [hc] at h
          cases h
        | ok state =>
          obtain ⟨first, through⟩ := state
          have hthrough := ih seen c first through hc
          rw [hc] at h
          cases first with
          | none => exact List.Subset.trans hthrough (ihrest through entered found h)
          | some v =>
            have h : rest.foldlM (ws.searchClass name fuel) (some v, through) = .ok (found, entered) := h
            rw [foldlM_searchClass_some] at h
            rwa [← (Prod.mk.inj (Except.ok.inj h)).2]
    rw [searchAttr_succ] at h
    split at h
    case isTrue =>
      rw [(Prod.mk.inj (Except.ok.inj h)).2]
      exact List.Subset.refl _
    case isFalse =>
      have hentered : r :: seen ⊆ entered := by
        unfold enterAttr at h
        split at h
        case h_1 =>
          rw [(Prod.mk.inj (Except.ok.inj h)).2]
          exact List.Subset.refl _
        case h_2 =>
          cases hclasses : ws.classesOf r with
          | error fault =>
            rw [hclasses] at h
            cases h
          | ok classes =>
            rw [hclasses] at h
            exact hfold classes _ entered found h
      exact List.Subset.trans (List.subset_cons_self r seen) hentered

end

/-- How many of the first entities of a workspace are not entered. -/
def unentered (count : Nat) (seen : List EntityRef) : Nat := ((Finset.range count).filter (⟨·⟩ ∉ seen)).card

theorem unentered_mono (count : Nat) {seen entered : List EntityRef} (h : seen ⊆ entered) :
    unentered count entered ≤ unentered count seen := by
  refine Finset.card_le_card fun i hi => ?_
  rw [Finset.mem_filter] at hi ⊢
  exact ⟨hi.1, fun hmem => hi.2 (h hmem)⟩

theorem unentered_cons_lt (count : Nat) (seen : List EntityRef) (r : EntityRef) (hr : r.index < count)
    (hnew : r ∉ seen) : unentered count (r :: seen) < unentered count seen := by
  refine Finset.card_lt_card ⟨?_, fun hsubset => ?_⟩
  · intro i hi
    rw [Finset.mem_filter] at hi ⊢
    exact ⟨hi.1, fun hmem => hi.2 (List.mem_cons_of_mem _ hmem)⟩
  · have hin : r.index ∈ (Finset.range count).filter (⟨·⟩ ∉ seen) :=
      Finset.mem_filter.mpr ⟨Finset.mem_range.mpr hr, hnew⟩
    exact (Finset.mem_filter.mp (hsubset hin)).2 List.mem_cons_self

/-! ## Where two workspaces agree -/

/-- A set of entities that classes do not lead out of, and on which two workspaces agree. -/
structure Alike (ws ws' : Workspace) (P : EntityRef → Prop) : Prop where
  known : ∀ r, P r → r.index < ws.entities.length
  attrs : ∀ r, P r → (ws'.entity r).attrs = (ws.entity r).attrs
  classes : ∀ r, P r → ws'.classesOf r = ws.classesOf r
  closed : ∀ r classes, P r → ws.classesOf r = .ok classes → ∀ c ∈ classes, P c

/-- The lists hold the same entities of a set. -/
def SameOn (P : EntityRef → Prop) (seen seen' : List EntityRef) : Prop := ∀ c, P c → (c ∈ seen' ↔ c ∈ seen)

/-- Two searches end alike: they find the same, and enter the same entities of a set. -/
inductive SameEnd (P : EntityRef → Prop) : Search → Search → Prop
  | ok (found : Option Value) (seen seen' : List EntityRef) (h : SameOn P seen seen') :
      SameEnd P (.ok (found, seen)) (.ok (found, seen'))
  | error (fault : Fault) : SameEnd P (.error fault) (.error fault)

namespace Alike

variable {ws ws' : Workspace} {P : EntityRef → Prop} (h : Alike ws ws' P)

section
variable (name : String) (fuel fuel' : Nat)
  (hsearch : ∀ seen seen' c, P c → SameOn P seen seen' → unentered ws.entities.length seen < fuel →
    unentered ws.entities.length seen < fuel' →
    SameEnd P (ws.searchAttr name fuel seen c) (ws'.searchAttr name fuel' seen' c))
include hsearch

theorem foldlM_searchClass (classes seen seen' : List EntityRef) (hclasses : ∀ c ∈ classes, P c)
    (hsame : SameOn P seen seen') (hfuel : unentered ws.entities.length seen < fuel)
    (hfuel' : unentered ws.entities.length seen < fuel') :
    SameEnd P (classes.foldlM (ws.searchClass name fuel) (none, seen))
      (classes.foldlM (ws'.searchClass name fuel') (none, seen')) := by
  induction classes generalizing seen seen' with
  | nil => exact .ok none seen seen' hsame
  | cons c rest ih =>
    obtain ⟨hc, hrest⟩ := List.forall_mem_cons.mp hclasses
    have hone := hsearch seen seen' c hc hsame hfuel hfuel'
    have hmore := ws.subset_of_searchAttr name fuel seen c
    rw [List.foldlM_cons, List.foldlM_cons, searchClass, searchClass]
    generalize ws.searchAttr name fuel seen c = result at hone hmore
    generalize ws'.searchAttr name fuel' seen' c = result' at hone
    cases hone with
    | error fault => exact .error fault
    | ok found entered entered' hentered =>
      cases found with
      | some v =>
        refine (congrArg₂ (SameEnd P) (foldlM_searchClass_some ws name fuel rest v entered)
          (foldlM_searchClass_some ws' name fuel' rest v entered')).mpr (.ok _ _ _ hentered)
      | none =>
        have hle := unentered_mono ws.entities.length (hmore none entered rfl)
        exact ih entered entered' hrest hentered (by omega) (by omega)

/-- Entities with the same attributes and classes are searched alike. -/
theorem enterAttr (r r' : EntityRef) (seen seen' : List EntityRef)
    (hattrs : (ws'.entity r').attrs = (ws.entity r).attrs) (hclasses : ws'.classesOf r' = ws.classesOf r)
    (hclosed : ∀ classes, ws.classesOf r = .ok classes → ∀ c ∈ classes, P c)
    (hsame : SameOn P (r :: seen) (r' :: seen')) (hfuel : unentered ws.entities.length (r :: seen) < fuel)
    (hfuel' : unentered ws.entities.length (r :: seen) < fuel') :
    SameEnd P (ws.enterAttr name fuel seen r) (ws'.enterAttr name fuel' seen' r') := by
  unfold Workspace.enterAttr
  rw [hattrs, hclasses]
  cases Value.field? (ws.entity r).attrs name with
  | some v => exact .ok _ _ _ hsame
  | none =>
    cases hnamed : ws.classesOf r with
    | error fault => exact .error fault
    | ok classes =>
      exact foldlM_searchClass name fuel fuel' hsearch classes _ _ (hclosed classes hnamed) hsame hfuel hfuel'

end

include h

/-- Both workspaces answer alike, with any fuel that suffices to enter all entities once. -/
theorem searchAttr (name : String) (fuel fuel' : Nat) (seen seen' : List EntityRef) (r : EntityRef) (hr : P r)
    (hsame : SameOn P seen seen') (hfuel : unentered ws.entities.length seen < fuel)
    (hfuel' : unentered ws.entities.length seen < fuel') :
    SameEnd P (ws.searchAttr name fuel seen r) (ws'.searchAttr name fuel' seen' r) := by
  induction fuel generalizing fuel' seen seen' r with
  | zero => omega
  | succ fuel ih =>
    cases fuel' with
    | zero => omega
    | succ fuel' =>
      rw [searchAttr_succ, searchAttr_succ]
      by_cases hseen : r ∈ seen
      · rw [if_pos (List.contains_iff_mem.mpr hseen), if_pos (List.contains_iff_mem.mpr ((hsame r hr).mpr hseen))]
        exact .ok none seen seen' hsame
      · rw [if_neg (by rwa [List.contains_iff_mem]), if_neg (by rwa [List.contains_iff_mem, hsame r hr])]
        have hlt := unentered_cons_lt ws.entities.length seen r (h.known r hr) hseen
        refine enterAttr name fuel fuel' (fun seen seen' c => ih fuel' seen seen' c) r r seen seen' (h.attrs r hr)
          (h.classes r hr) (fun classes hclasses => h.closed r classes hr hclasses) ?_ (by omega) (by omega)
        intro c hc
        rw [List.mem_cons, List.mem_cons, hsame c hc]

/-- Where an entity is searched in the place of another, both answer alike. -/
theorem answers {r r' : EntityRef} (hr : r.index < ws.entities.length)
    (hlength : ws.entities.length ≤ ws'.entities.length) (hlinks : (ws'.entity r').links = (ws.entity r).links)
    (hfinds : FindsAs ws r ws' r') (hclosed : ∀ classes, ws.classesOf r = .ok classes → ∀ c ∈ classes, P c)
    (hsame : SameOn P [r] [r']) : Answers ws r ws' r' := by
  refine ⟨hfinds, fun name default => ?_⟩
  have hlt := unentered_cons_lt ws.entities.length [] r hr List.not_mem_nil
  have hall : unentered ws.entities.length [] ≤ ws.entities.length :=
    (Finset.card_filter_le _ _).trans (Finset.card_range _).le
  have hend := enterAttr name ws.entities.length ws'.entities.length
    (fun seen seen' c => h.searchAttr name _ _ seen seen' c) r r' [] [] (congrArg Links.attrs hlinks) hfinds.classes
    hclosed hsame (by omega) (by omega)
  rw [attr, attr, attr?_eq, attr?_eq]
  generalize ws.enterAttr name ws.entities.length [] r = result at hend
  generalize ws'.enterAttr name ws'.entities.length [] r' = result' at hend
  cases hend with
  | ok => rfl
  | error => rfl

end Alike

/-! ## Reaching classes -/

/-- The entity names the class. -/
def NamesClass (ws : Workspace) (r c : EntityRef) : Prop := ∃ classes, ws.classesOf r = .ok classes ∧ c ∈ classes

/-- The entities that a search from an entity can enter: it, its classes, and what these inherit from. -/
def Inherits (ws : Workspace) : EntityRef → EntityRef → Prop := Relation.ReflTransGen ws.NamesClass

end Workspace

end StateMachine
