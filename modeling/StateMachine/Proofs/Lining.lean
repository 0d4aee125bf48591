import Mathlib.Data.List.Forall2
import StateMachine.Description.Record
import StateMachine.Yaml

/-!
# Values with lines

A document has a value with lines and one without. Lines are taken out of values by a search that goes into lists and
mappings only: it finds all of them unless there is a set, or a mapping or set in a tuple. A value in which no mapping has
a line at any depth stays what it is.
-/

namespace StateMachine

namespace Value

mutual
/-- Whether a test accepts a value or anything in it. What is in a set or a key holds nothing itself. -/
def anyPart (test : Value → Bool) : Value → Bool
  | list xs => test (list xs) || anyPartOf test xs
  | tuple xs => test (tuple xs) || anyPartOf test xs
  | map entries => test (map entries) || anyPartUnder test entries
  | v => test v

/-- Whether a test accepts a value of a list or anything in one. -/
def anyPartOf (test : Value → Bool) : List Value → Bool
  | [] => false
  | x :: xs => x.anyPart test || anyPartOf test xs

/-- Whether a test accepts a value under a key or anything in one. -/
def anyPartUnder (test : Value → Bool) : List (Value × Value) → Bool
  | [] => false
  | (_, v) :: rest => v.anyPart test || anyPartUnder test rest
end

/-- A mapping that has the key of the line. -/
def keysLine : Value → Bool
  | map entries => entries.any fun entry => entry.1 == .text Yaml.lineKey
  | _ => false

@[simp]
theorem beq_text_iff (v : Value) (s : String) : (v == text s) = true ↔ v = text s := by
  change v.same (text s) = true ↔ v = text s
  cases v with
  | text t => simp [same]
  | undefined occurrence => cases occurrence <;> simp [same, whole?]
  | _ => simp [same, whole?]

@[simp]
theorem text_beq_iff (s : String) (v : Value) : (text s == v) = true ↔ v = text s := by
  change (text s).same v = true ↔ v = text s
  cases v with
  | text t =>
    rw [same, beq_iff_eq, text.injEq]
    exact eq_comm
  | undefined occurrence => cases occurrence <;> simp [same, whole?]
  | _ => simp [same, whole?]

end Value

namespace Description

open Value

mutual
/-- A value in which no mapping has a line stays what it is. -/
theorem withoutLines_eq_self (v : Value) (h : v.anyPart keysLine = false) : withoutLines v = v := by
  match v with
  | .map entries =>
    simp only [anyPart, keysLine, Bool.or_eq_false_iff] at h
    rw [withoutLines, entriesWithoutLines_eq_self entries h.1 h.2]
  | .list xs =>
    simp only [anyPart, keysLine, Bool.false_or] at h
    rw [withoutLines, allWithoutLines_eq_self xs h]
  | .null | .bool _ | .int _ | .float _ | .undefined _ | .text _ | .bytes _ | .date _ | .instant _ | .tuple _ | .set _ =>
    rw [withoutLines] <;> exact nofun

theorem allWithoutLines_eq_self (xs : List Value) (h : anyPartOf keysLine xs = false) : allWithoutLines xs = xs := by
  match xs with
  | [] => rw [allWithoutLines]
  | x :: rest =>
    simp only [anyPartOf, Bool.or_eq_false_iff] at h
    rw [allWithoutLines, withoutLines_eq_self x h.1, allWithoutLines_eq_self rest h.2]

theorem entriesWithoutLines_eq_self (entries : List (Value × Value))
    (hkeys : (entries.any fun entry => entry.1 == .text Yaml.lineKey) = false)
    (h : anyPartUnder keysLine entries = false) : entriesWithoutLines entries = entries := by
  match entries with
  | [] => rw [entriesWithoutLines]
  | (k, v) :: rest =>
    simp only [anyPartUnder, List.any_cons, Bool.or_eq_false_iff] at h hkeys
    rw [entriesWithoutLines, if_neg (by simp [hkeys.1]), withoutLines_eq_self v h.1,
      entriesWithoutLines_eq_self rest hkeys.2 h.2]
end

end Description

/-! ## Lines put in -/

namespace Value

mutual
/-- The second value is the first one with lines: every mapping has one as its last entry, and every set has the key of
the line as its last member. -/
inductive Lined : Value → Value → Prop
  | scalar (v : Value) (h : v.isScalar = true) : Lined v v
  | list {ps ls : List Value} (h : List.Forall₂ Lined ps ls) : Lined (list ps) (list ls)
  | tuple {ps ls : List Value} (h : List.Forall₂ Lined ps ls) : Lined (tuple ps) (tuple ls)
  | set (members : List Value) : Lined (set members) (set (members ++ [text Yaml.lineKey]))
  | map {ps ls : Dict} (h : List.Forall₂ LinedEntry ps ls) (line : Int) :
      Lined (map ps) (map (ls ++ [(text Yaml.lineKey, int line)]))

/-- The second entry has the same key, and the value of the first one with lines. -/
inductive LinedEntry : Value × Value → Value × Value → Prop
  | mk (key : Value) {p l : Value} (h : Lined p l) : LinedEntry (key, p) (key, l)
end

section
variable {l : Value}

theorem Lined.of_list {ps : List Value} (h : Lined (Value.list ps) l) :
    ∃ ls, l = Value.list ls ∧ List.Forall₂ Lined ps ls := by
  cases h with
  | scalar _ h => cases h
  | list h => exact ⟨_, rfl, h⟩

theorem Lined.of_tuple {ps : List Value} (h : Lined (Value.tuple ps) l) :
    ∃ ls, l = Value.tuple ls ∧ List.Forall₂ Lined ps ls := by
  cases h with
  | scalar _ h => cases h
  | tuple h => exact ⟨_, rfl, h⟩

theorem Lined.of_set {members : List Value} (h : Lined (Value.set members) l) :
    l = Value.set (members ++ [text Yaml.lineKey]) := by
  cases h with
  | scalar _ h => cases h
  | set => rfl

theorem Lined.of_map {ps : Dict} (h : Lined (Value.map ps) l) :
    ∃ ls line, l = Value.map (ls ++ [(text Yaml.lineKey, int line)]) ∧ List.Forall₂ LinedEntry ps ls := by
  cases h with
  | scalar _ h => cases h
  | map h line => exact ⟨_, line, rfl, h⟩

theorem Lined.of_scalar {p : Value} (hp : p.isScalar = true) (h : Lined p l) : l = p := by
  cases h with
  | scalar => rfl
  | _ => cases hp

end

/-- A mapping or set that has the key of the line, as if it had lines. -/
def holdsLine : Value → Bool
  | map entries => entries.any fun entry => entry.1 == text Yaml.lineKey
  | set members => members.any (· == text Yaml.lineKey)
  | _ => false

/-- No mapping or set in the value has the key of the line. -/
def Unlined (v : Value) : Prop := v.anyPart holdsLine = false

theorem anyPartOf_eq_false_iff (test : Value → Bool) (xs : List Value) :
    anyPartOf test xs = false ↔ ∀ x ∈ xs, x.anyPart test = false := by
  induction xs with
  | nil => simp [anyPartOf]
  | cons x rest ih => simp [anyPartOf, ih]

theorem anyPartUnder_eq_false_iff (test : Value → Bool) (entries : Dict) :
    anyPartUnder test entries = false ↔ ∀ entry ∈ entries, entry.2.anyPart test = false := by
  induction entries with
  | nil => simp [anyPartUnder]
  | cons entry rest ih => simp [anyPartUnder, ih]

mutual
theorem anyPart_keysLine_eq_false (v : Value) (h : v.Unlined) : v.anyPart keysLine = false := by
  match v with
  | list xs =>
    rw [Unlined, anyPart, Bool.or_eq_false_iff] at h
    rw [anyPart, anyPartOf_keysLine_eq_false xs h.2]
    rfl
  | tuple xs =>
    rw [Unlined, anyPart, Bool.or_eq_false_iff] at h
    rw [anyPart, anyPartOf_keysLine_eq_false xs h.2]
    rfl
  | map entries =>
    rw [Unlined, anyPart, Bool.or_eq_false_iff] at h
    rw [anyPart, anyPartUnder_keysLine_eq_false entries h.2, Bool.or_false]
    exact h.1
  | null | bool _ | int _ | float _ | undefined _ | text _ | bytes _ | date _ | instant _ | set _ => rfl

theorem anyPartOf_keysLine_eq_false (xs : List Value) (h : anyPartOf holdsLine xs = false) :
    anyPartOf keysLine xs = false := by
  match xs with
  | [] => rfl
  | x :: rest =>
    rw [anyPartOf, Bool.or_eq_false_iff] at h
    rw [anyPartOf, anyPart_keysLine_eq_false x h.1, anyPartOf_keysLine_eq_false rest h.2]
    rfl

theorem anyPartUnder_keysLine_eq_false (entries : List (Value × Value)) (h : anyPartUnder holdsLine entries = false) :
    anyPartUnder keysLine entries = false := by
  match entries with
  | [] => rfl
  | (k, v) :: rest =>
    rw [anyPartUnder, Bool.or_eq_false_iff] at h
    rw [anyPartUnder, anyPart_keysLine_eq_false v h.1, anyPartUnder_keysLine_eq_false rest h.2]
    rfl
end

theorem unlined_list_iff (xs : List Value) : (list xs).Unlined ↔ ∀ x ∈ xs, x.Unlined := by
  simp only [Unlined, anyPart, holdsLine, Bool.false_or, anyPartOf_eq_false_iff]

theorem unlined_tuple_iff (xs : List Value) : (tuple xs).Unlined ↔ ∀ x ∈ xs, x.Unlined := by
  simp only [Unlined, anyPart, holdsLine, Bool.false_or, anyPartOf_eq_false_iff]

theorem unlined_set_iff (members : List Value) : (set members).Unlined ↔ ∀ v ∈ members, v ≠ text Yaml.lineKey := by
  simp [Unlined, anyPart, holdsLine]

theorem unlined_map_iff (entries : Dict) :
    (map entries).Unlined ↔ ∀ entry ∈ entries, entry.1 ≠ text Yaml.lineKey ∧ entry.2.Unlined := by
  rw [Unlined, anyPart, holdsLine, Bool.or_eq_false_iff, anyPartUnder_eq_false_iff]
  simp [Unlined, forall_and]

theorem unlined_map_cons_iff (key v : Value) (rest : Dict) :
    (map ((key, v) :: rest)).Unlined ↔ (key ≠ text Yaml.lineKey ∧ v.Unlined) ∧ (map rest).Unlined := by
  rw [unlined_map_iff, List.forall_mem_cons, ← unlined_map_iff]

end Value

/-! ## Documents -/

theorem put_of_distinct (key value : Value) (entries : Dict) (h : ∀ entry ∈ entries, (entry.1 == key) = false) :
    Assoc.put key value entries = entries ++ [(key, value)] := by
  induction entries with
  | nil => rfl
  | cons entry rest ih =>
    obtain ⟨hfirst, hrest⟩ := List.forall_mem_cons.mp h
    rw [Assoc.put, hfirst, ih hrest]
    rfl

namespace Yaml

theorem exists_mapM {α β : Type} {f g : α → Option β} {R : β → β → Prop}
    (h : ∀ x l, f x = some l → ∃ p, g x = some p ∧ R p l) (xs : List α) (ls : List β) (hls : xs.mapM f = some ls) :
    ∃ ps, xs.mapM g = some ps ∧ List.Forall₂ R ps ls := by
  induction xs generalizing ls with
  | nil =>
    obtain rfl := Option.some.inj hls
    exact ⟨[], rfl, .nil⟩
  | cons x rest ih =>
    simp only [List.mapM_cons, Option.bind_eq_bind, Option.bind_eq_some_iff] at hls
    obtain ⟨l, hl, ls', hls', heq⟩ := hls
    obtain ⟨p, hp, hfirst⟩ := h x l hl
    obtain ⟨ps, hps, hrest⟩ := ih ls' hls'
    refine ⟨p :: ps, by simp [List.mapM_cons, hp, hps], ?_⟩
    rw [← Option.some.inj heq]
    exact .cons hfirst hrest

theorem forall₂_of_forall {α β : Type} {P : α → Prop} {R : α → β → Prop} {xs : List α} {ys : List β}
    (h : List.Forall₂ (fun x y => P x → R x y) xs ys) (hall : ∀ x ∈ xs, P x) : List.Forall₂ R xs ys :=
  ((List.forall₂_and_left xs ys).mpr ⟨hall, h⟩).imp fun _ _ hboth => hboth.2 hboth.1

theorem fst_eq_of_linedEntry {ps ls : Dict} (h : List.Forall₂ Value.LinedEntry ps ls) :
    ls.map (·.1) = ps.map (·.1) := by
  induction h with
  | nil => rfl
  | cons hfirst _ ih =>
    cases hfirst
    rw [List.map_cons, List.map_cons, ih]

open Value in
theorem keys_of_linedEntry {ps ls : Dict} (h : List.Forall₂ LinedEntry ps ls) (hfree : (map ps).Unlined) :
    ∀ entry ∈ ls, (entry.1 == text lineKey) = false := by
  intro entry he
  have hmem : entry.1 ∈ ps.map (·.1) := fst_eq_of_linedEntry h ▸ List.mem_map_of_mem he
  obtain ⟨other, hother, heq⟩ := List.mem_map.mp hmem
  exact Bool.eq_false_iff.mpr fun hline =>
    ((unlined_map_iff ps).mp hfree other hother).1 (heq.trans ((beq_text_iff _ _).mp hline))

open Value in
/-- A node that has a value with lines has one without. -/
theorem lined_of_valueInside? (c : Construction) (depth : Nat) (outer : List NodeId) (id : NodeId) (l : Value)
    (h : c.valueInside? true depth outer id = some l) :
    ∃ p, c.valueInside? false depth outer id = some p ∧ (p.Unlined → Lined p l) := by
  induction depth generalizing outer id l with
  | zero => cases h
  | succ depth ih =>
    have hinside := ih (id :: outer)
    unfold Construction.valueInside? at h ⊢
    dsimp only at h ⊢
    split at h
    case h_1 v hv _ =>
      obtain rfl := Option.some.inj h
      exact ⟨v, rfl, fun _ => .scalar v hv⟩
    case h_2 items _ =>
      obtain ⟨ls, hls, heq⟩ := Option.bind_eq_some_iff.mp h
      obtain rfl := Option.some.inj heq
      obtain ⟨ps, hps, hall⟩ := exists_mapM hinside _ ls hls
      rw [hps]
      exact ⟨list ps, rfl, fun hfree => .list (forall₂_of_forall hall ((unlined_list_iff ps).mp hfree))⟩
    case h_3 items _ =>
      obtain ⟨ls, hls, heq⟩ := Option.bind_eq_some_iff.mp h
      obtain rfl := Option.some.inj heq
      have hpair : ∀ (x : NodeId × NodeId) (l : Value), (do
          let k ← c.valueInside? true depth (id :: outer) x.1
          let v ← c.valueInside? true depth (id :: outer) x.2
          pure (tuple [k, v])) = some l → ∃ p, (do
          let k ← c.valueInside? false depth (id :: outer) x.1
          let v ← c.valueInside? false depth (id :: outer) x.2
          pure (tuple [k, v])) = some p ∧ (p.Unlined → Lined p l) := by
        intro x l hl
        obtain ⟨kl, hkl, hl⟩ := Option.bind_eq_some_iff.mp hl
        obtain ⟨vl, hvl, hl⟩ := Option.bind_eq_some_iff.mp hl
        obtain rfl := Option.some.inj hl
        obtain ⟨kp, hkp, hk⟩ := hinside x.1 kl hkl
        obtain ⟨vp, hvp, hv⟩ := hinside x.2 vl hvl
        refine ⟨tuple [kp, vp], by rw [hkp, hvp]; rfl, fun hfree => ?_⟩
        simp only [unlined_tuple_iff, List.forall_mem_cons] at hfree
        exact .tuple (.cons (hk hfree.1) (.cons (hv hfree.2.1) .nil))
      obtain ⟨ps, hps, hall⟩ := exists_mapM hpair _ ls hls
      rw [hps]
      exact ⟨list ps, rfl, fun hfree => .list (forall₂_of_forall hall ((unlined_list_iff ps).mp hfree))⟩
    case h_4 keys _ =>
      obtain rfl := Option.some.inj h
      refine ⟨set keys, rfl, fun hfree => ?_⟩
      have hnone : keys.any (· == text lineKey) = false := by
        rw [List.any_eq_false]
        exact fun v hv => mt (beq_text_iff v _).mp ((unlined_set_iff keys).mp hfree v hv)
      rw [if_pos rfl, linedMembers, hnone]
      exact .set keys
    case h_5 entries line _ =>
      obtain ⟨ls, hls, heq⟩ := Option.bind_eq_some_iff.mp h
      obtain rfl := Option.some.inj heq
      have hentry : ∀ (x : Value × NodeId) (l : Value × Value), (do
          let v ← c.valueInside? true depth (id :: outer) x.2
          pure (x.1, v)) = some l → ∃ p, (do
          let v ← c.valueInside? false depth (id :: outer) x.2
          pure (x.1, v)) = some p ∧ (p.2.Unlined → LinedEntry p l) := by
        intro x l hl
        obtain ⟨vl, hvl, hl⟩ := Option.bind_eq_some_iff.mp hl
        obtain rfl := Option.some.inj hl
        obtain ⟨vp, hvp, hv⟩ := hinside x.2 vl hvl
        exact ⟨(x.1, vp), by rw [hvp]; rfl, fun hfree => .mk x.1 (hv hfree)⟩
      obtain ⟨ps, hps, hall⟩ := exists_mapM hentry _ ls hls
      rw [hps]
      refine ⟨map ps, rfl, fun hfree => ?_⟩
      have hlined := forall₂_of_forall hall fun entry he => ((unlined_map_iff ps).mp hfree entry he).2
      rw [if_pos rfl, put_of_distinct _ _ ls (keys_of_linedEntry hlined hfree)]
      exact .map hlined _
    case h_6 => cases h
    case h_7 => cases h

/-- A text that has a value with lines has one without. -/
theorem lined_of_read? {text : String} {l : Value} (h : read? true text = some l) :
    ∃ p, read? false text = some p ∧ (p.Unlined → Value.Lined p l) := by
  rw [read?] at h ⊢
  obtain ⟨document, hdocument, hvalue⟩ := Option.bind_eq_some_iff.mp h
  rw [hdocument]
  cases document with
  | none =>
    obtain rfl := Option.some.inj hvalue
    exact ⟨.null, rfl, fun _ => .scalar .null rfl⟩
  | some d =>
    obtain ⟨c, hc, hvalue⟩ := Option.bind_eq_some_iff.mp hvalue
    obtain ⟨p, hp, hlined⟩ := lined_of_valueInside? c _ _ _ l hvalue
    have hplain : d.value? false = some p := Option.bind_eq_some_iff.mpr ⟨c, hc, hp⟩
    exact ⟨p, hplain, hlined⟩

end Yaml

/-! ## Lines taken out -/

namespace Value

/-- A mapping or a set, which may have lines. -/
def isGathered : Value → Bool
  | map _ | set _ => true
  | _ => false

mutual
/-- Whether the search for lines misses some of them: it does not look into sets and tuples. -/
def leaks : Value → Bool
  | set _ => true
  | tuple xs => anyPartOf isGathered xs
  | list xs => leaksAny xs
  | map entries => leaksUnder entries
  | _ => false

/-- Whether lines are missed in a value of a list. -/
def leaksAny : List Value → Bool
  | [] => false
  | x :: xs => x.leaks || leaksAny xs

/-- Whether lines are missed in a value under a key. -/
def leaksUnder : List (Value × Value) → Bool
  | [] => false
  | (_, v) :: rest => v.leaks || leaksUnder rest
end

theorem leaksUnder_eq_false_iff (entries : Dict) :
    leaksUnder entries = false ↔ ∀ entry ∈ entries, entry.2.leaks = false := by
  induction entries with
  | nil => simp [leaksUnder]
  | cons entry rest ih => simp [leaksUnder, ih]

/-- Lines are left in a value or not: if none are, the value is what it is without lines, and the key of the line is
nowhere in it; if some are, neither holds. -/
structure LinesLeft (left : Bool) (p l : Value) : Prop where
  eq_iff : l = p ↔ left = false
  unlined_iff : l.Unlined ↔ left = false

namespace LinesLeft

variable {p l : Value} {ps ls : List Value} {first rest : Bool}

theorem unchanged (v : Value) (h : v.Unlined) : LinesLeft false v v := ⟨iff_of_true rfl rfl, iff_of_true h rfl⟩

theorem changed (hne : l ≠ p) (h : ¬ l.Unlined) : LinesLeft true p l := ⟨iff_of_false hne nofun, iff_of_false h nofun⟩

theorem cons (hfirst : LinesLeft first p l) (hrest : LinesLeft rest (list ps) (list ls)) :
    LinesLeft (first || rest) (list (p :: ps)) (list (l :: ls)) where
  eq_iff := by
    rw [list.injEq, List.cons.injEq, ← list.injEq, hfirst.eq_iff, hrest.eq_iff, Bool.or_eq_false_iff]
  unlined_iff := by
    rw [unlined_list_iff, List.forall_mem_cons, ← unlined_list_iff, hfirst.unlined_iff, hrest.unlined_iff,
      Bool.or_eq_false_iff]

theorem tuple (h : LinesLeft first (list ps) (list ls)) : LinesLeft first (tuple ps) (tuple ls) where
  eq_iff := by rw [tuple.injEq, ← list.injEq, h.eq_iff]
  unlined_iff := by rw [unlined_tuple_iff, ← unlined_list_iff, h.unlined_iff]

theorem entry {key : Value} {ps ls : Dict} (hkey : key ≠ text Yaml.lineKey) (hfirst : LinesLeft first p l)
    (hrest : LinesLeft rest (map ps) (map ls)) :
    LinesLeft (first || rest) (map ((key, p) :: ps)) (map ((key, l) :: ls)) where
  eq_iff := by
    rw [map.injEq, List.cons.injEq, Prod.mk.injEq, ← map.injEq, hfirst.eq_iff, hrest.eq_iff, Bool.or_eq_false_iff]
    simp
  unlined_iff := by
    rw [unlined_map_cons_iff, hfirst.unlined_iff, hrest.unlined_iff, Bool.or_eq_false_iff]
    simp [hkey]

theorem set (members : List Value) : LinesLeft true (set members) (set (members ++ [text Yaml.lineKey])) :=
  .changed (by simp) (by simp [unlined_set_iff])

end LinesLeft

mutual
/-- Lines are left in a value with lines exactly if there is a mapping or a set in it. -/
theorem linesLeft_of_lined (p l : Value) (h : Lined p l) : LinesLeft (p.anyPart isGathered) p l := by
  match p with
  | list ps =>
    obtain ⟨ls, rfl, hmembers⟩ := h.of_list
    rw [anyPart]
    exact linesLeft_of_forall₂_lined ps ls hmembers
  | tuple ps =>
    obtain ⟨ls, rfl, hmembers⟩ := h.of_tuple
    rw [anyPart]
    exact .tuple (linesLeft_of_forall₂_lined ps ls hmembers)
  | set members =>
    obtain rfl := h.of_set
    exact .set members
  | map ps =>
    obtain ⟨ls, line, rfl, hentries⟩ := h.of_map
    refine .changed (fun heq => ?_) fun hunlined => ?_
    · have hlength := congrArg List.length (Value.map.inj heq)
      rw [List.length_append, hentries.length_eq] at hlength
      simp at hlength
    · exact ((unlined_map_iff _).mp hunlined (text Yaml.lineKey, int line) (by simp)).1 rfl
  | null | bool _ | int _ | float _ | undefined _ | text _ | bytes _ | date _ | instant _ =>
    obtain rfl := h.of_scalar rfl
    exact .unchanged _ rfl

theorem linesLeft_of_forall₂_lined (ps ls : List Value) (h : List.Forall₂ Lined ps ls) :
    LinesLeft (anyPartOf isGathered ps) (list ps) (list ls) := by
  match ps with
  | [] =>
    cases h
    exact .unchanged _ rfl
  | p :: ps =>
    cases h with
    | cons hfirst hrest => exact .cons (linesLeft_of_lined p _ hfirst) (linesLeft_of_forall₂_lined ps _ hrest)
end

end Value

namespace Description

open Value

theorem entriesWithoutLines_of_unlined {entries : Dict} (h : (Value.map entries).Unlined) :
    entriesWithoutLines entries = entries := by
  have hnone := anyPart_keysLine_eq_false _ h
  rw [anyPart, Bool.or_eq_false_iff] at hnone
  exact entriesWithoutLines_eq_self entries hnone.1 hnone.2

theorem entriesWithoutLines_append_line (entries : Dict) (v : Value) :
    entriesWithoutLines (entries ++ [(.text Yaml.lineKey, v)]) = entriesWithoutLines entries := by
  induction entries with
  | nil => simp [entriesWithoutLines]
  | cons entry rest ih =>
    obtain ⟨k, x⟩ := entry
    rw [List.cons_append, entriesWithoutLines, entriesWithoutLines, ih]

theorem withoutLines_tuple (xs : List Value) : withoutLines (.tuple xs) = .tuple xs := by
  rw [withoutLines] <;> exact nofun

theorem withoutLines_set (members : List Value) : withoutLines (.set members) = .set members := by
  rw [withoutLines] <;> exact nofun

theorem withoutLines_of_isScalar {v : Value} (h : v.isScalar = true) : withoutLines v = v := by
  cases v with
  | list | tuple | set | map => cases h
  | _ => rw [withoutLines] <;> exact nofun

mutual
/-- Lines are left in a value that they are taken out of exactly if the search misses some. -/
theorem linesLeft_withoutLines (p l : Value) (h : Lined p l) (hfree : p.Unlined) :
    LinesLeft p.leaks p (withoutLines l) := by
  match p with
  | .list ps =>
    obtain ⟨ls, rfl, hmembers⟩ := h.of_list
    rw [withoutLines, leaks]
    exact linesLeft_allWithoutLines ps ls hmembers ((unlined_list_iff ps).mp hfree)
  | .tuple ps =>
    obtain ⟨ls, rfl, hmembers⟩ := h.of_tuple
    rw [withoutLines_tuple, leaks]
    exact .tuple (linesLeft_of_forall₂_lined ps ls hmembers)
  | .set members =>
    obtain rfl := h.of_set
    rw [withoutLines_set]
    exact .set members
  | .map ps =>
    obtain ⟨ls, line, rfl, hentries⟩ := h.of_map
    rw [withoutLines, entriesWithoutLines_append_line, leaks]
    exact linesLeft_entriesWithoutLines ps ls hentries ((unlined_map_iff ps).mp hfree)
  | .null | .bool _ | .int _ | .float _ | .undefined _ | .text _ | .bytes _ | .date _ | .instant _ =>
    obtain rfl := h.of_scalar rfl
    rw [withoutLines_of_isScalar rfl]
    exact .unchanged _ rfl

theorem linesLeft_allWithoutLines (ps ls : List Value) (h : List.Forall₂ Lined ps ls) (hfree : ∀ p ∈ ps, p.Unlined) :
    LinesLeft (leaksAny ps) (.list ps) (.list (allWithoutLines ls)) := by
  match ps with
  | [] =>
    cases h
    rw [allWithoutLines]
    exact .unchanged _ rfl
  | p :: ps =>
    cases h with
    | cons hfirst hrest =>
      obtain ⟨hp, hps⟩ := List.forall_mem_cons.mp hfree
      rw [allWithoutLines]
      exact .cons (linesLeft_withoutLines p _ hfirst hp) (linesLeft_allWithoutLines ps _ hrest hps)

theorem linesLeft_entriesWithoutLines (ps ls : List (Value × Value)) (h : List.Forall₂ LinedEntry ps ls)
    (hfree : ∀ entry ∈ ps, entry.1 ≠ .text Yaml.lineKey ∧ entry.2.Unlined) :
    LinesLeft (leaksUnder ps) (.map ps) (.map (entriesWithoutLines ls)) := by
  match ps with
  | [] =>
    cases h
    rw [entriesWithoutLines]
    exact .unchanged _ rfl
  | (k, p) :: ps =>
    cases h with
    | cons hfirst hrest =>
      cases hfirst with
      | mk _ hvalue =>
        obtain ⟨⟨hk, hp⟩, hps⟩ := List.forall_mem_cons.mp hfree
        rw [entriesWithoutLines, if_neg (mt (beq_text_iff _ _).mp hk)]
        exact .entry hk (linesLeft_withoutLines p _ hvalue hp) (linesLeft_entriesWithoutLines ps _ hrest hps)
end

end Description

end StateMachine
