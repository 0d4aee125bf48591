import Mathlib.Data.List.Sort
import StateMachine.Sorting

/-!
# Sorting by a key

What `sorted` does when elements are compared by a key: it permutes, it leaves an ascending list as it is, and it keeps
the order of elements with one key.
-/

namespace StateMachine

variable {α : Type}

/-- Comparison by a number. -/
def byKey (key : α → Int) (a b : α) : Bool := key a ≤ key b

theorem insertSorted_eq_orderedInsert (le : α → α → Bool) (x : α) (xs : List α) :
    insertSorted le x xs = xs.orderedInsert (le · ·) x := by
  induction xs with
  | nil => rfl
  | cons y ys ih => rw [insertSorted, ih, List.orderedInsert_cons]

theorem sorted_eq_insertionSort (le : α → α → Bool) (xs : List α) : sorted le xs = xs.insertionSort (le · ·) := by
  induction xs with
  | nil => rfl
  | cons x xs ih => rw [sorted, List.foldr_cons, ← sorted, ih, insertSorted_eq_orderedInsert, List.insertionSort_cons]

theorem sorted_perm (le : α → α → Bool) (xs : List α) : (sorted le xs).Perm xs := by
  rw [sorted_eq_insertionSort]
  exact List.perm_insertionSort _ xs

theorem mem_sorted (le : α → α → Bool) (xs : List α) (x : α) : x ∈ sorted le xs ↔ x ∈ xs :=
  (sorted_perm le xs).mem_iff

/-- A list that is in order already is its own sorting, whatever the order. -/
theorem sorted_of_pairwise (le : α → α → Bool) (xs : List α) (h : xs.Pairwise (le · ·)) :
    sorted le xs = xs := by
  rw [sorted_eq_insertionSort, h.insertionSort_eq]

/-- Only how the order compares elements of the list matters. -/
theorem sorted_congr (le le' : α → α → Bool) (xs : List α) (h : ∀ a ∈ xs, ∀ b ∈ xs, le a b = le' a b) :
    sorted le xs = sorted le' xs := by
  induction xs with
  | nil => rfl
  | cons x xs ih =>
    have ih := ih fun a ha b hb => h a (List.mem_cons_of_mem _ ha) b (List.mem_cons_of_mem _ hb)
    have hinsert : ∀ ys : List α, (∀ y ∈ ys, y ∈ xs) → insertSorted le x ys = insertSorted le' x ys := by
      intro ys hys
      induction ys with
      | nil => rfl
      | cons y ys ihy =>
        obtain ⟨hy, hrest⟩ := List.forall_mem_cons.mp hys
        rw [insertSorted, insertSorted, h x List.mem_cons_self y (List.mem_cons_of_mem _ hy), ihy hrest]
    rw [sorted, List.foldr_cons, ← sorted, ih, hinsert _ fun y hy => (mem_sorted _ _ y).mp hy]
    rfl

/-! ## Keys -/

section
variable {β : Type} [LinearOrder β] (key : α → β) (le : α → α → Bool) (hle : ∀ a b, le a b = true ↔ key a ≤ key b)
include hle

theorem sorted_ascending (xs : List α) : (sorted le xs).Pairwise (key · ≤ key ·) := by
  have htotal : Std.Total fun a b => le a b = true := ⟨fun a b => by
    rw [hle, hle]
    exact le_total _ _⟩
  have htrans : IsTrans α fun a b => le a b = true := ⟨fun a b c => by
    rw [hle, hle, hle]
    exact le_trans⟩
  rw [sorted_eq_insertionSort]
  exact (List.pairwise_insertionSort _ xs).imp (hle _ _).mp

/-- Sorting a list gives the strictly ascending list of its elements. -/
theorem sorted_eq_of_perm (xs ys : List α) (hperm : xs.Perm ys) (hys : ys.Pairwise (key · < key ·)) :
    sorted le xs = ys := by
  have hkeys : (ys.map key).Nodup := List.pairwise_map.mpr (hys.imp ne_of_lt)
  refine ((sorted_perm _ xs).trans hperm).eq_of_pairwise ?_ (sorted_ascending key le hle xs) (hys.imp le_of_lt)
  intro a b ha hb hab hba
  have ha := hperm.mem_iff.mp ((mem_sorted _ _ a).mp ha)
  exact List.inj_on_of_nodup_map hkeys ha hb (le_antisymm hab hba)

end

/-! ## Numbers -/

theorem sorted_pairwise (key : α → Int) (xs : List α) : (sorted (byKey key) xs).Pairwise (key · ≤ key ·) :=
  sorted_ascending key _ (fun _ _ => decide_eq_true_iff) xs

theorem sorted_of_perm (key : α → Int) (xs ys : List α) (hperm : xs.Perm ys) (hys : ys.Pairwise (key · < key ·)) :
    sorted (byKey key) xs = ys :=
  sorted_eq_of_perm key _ (fun _ _ => decide_eq_true_iff) xs ys hperm hys

/-- Two keys that ascend along a list order its elements alike. -/
theorem le_of_ascending (key key' : α → Int) (xs : List α) (hkey : xs.Pairwise (key · < key ·))
    (hkey' : xs.Pairwise (key' · < key' ·)) (x y : α) (hx : x ∈ xs) (hy : y ∈ xs) (h : key x ≤ key y) :
    key' x ≤ key' y := by
  have hall : ∀ a ∈ xs, ∀ b ∈ xs, key a ≤ key b → key' a ≤ key' b := by
    apply List.Pairwise.forall_of_forall_of_flip
    · exact fun a _ _ => Int.le_refl _
    · refine hkey'.imp ?_
      intro a b hlt _
      exact Int.le_of_lt hlt
    · refine hkey.imp ?_
      intro a b hlt hle
      omega
  exact hall x hx y hy h

theorem filter_insertSorted (key : α → Int) (n : Int) (x : α) (xs : List α) :
    (insertSorted (byKey key) x xs).filter (key · = n) = (x :: xs).filter (key · = n) := by
  induction xs with
  | nil => rfl
  | cons y ys ih =>
    unfold insertSorted
    split
    · rfl
    case isFalse hle =>
      -- An element is moved past another one only if their numbers differ.
      have hne : ¬ (key x = n ∧ key y = n) := by
        rintro ⟨hx, hy⟩
        exact hle (decide_eq_true (by omega))
      rw [List.filter_cons, ih]
      by_cases hx : key x = n <;> by_cases hy : key y = n <;> simp_all

/-- Sorting keeps the order of the elements with one number. -/
theorem filter_sorted (key : α → Int) (n : Int) (xs : List α) :
    (sorted (byKey key) xs).filter (key · = n) = xs.filter (key · = n) := by
  induction xs with
  | nil => rfl
  | cons x xs ih =>
    rw [sorted, List.foldr_cons, ← sorted, filter_insertSorted, List.filter_cons, List.filter_cons, ih]

/-- In an ascending list the elements with the least number come first. -/
theorem eq_filter_append (key : α → Int) (n : Int) (xs : List α) (hx : xs.Pairwise (key · ≤ key ·))
    (hn : ∀ x ∈ xs, n ≤ key x) : xs = xs.filter (key · = n) ++ xs.filter (key · ≠ n) := by
  induction xs with
  | nil => rfl
  | cons x xs ih =>
    rw [List.pairwise_cons] at hx
    have ih := ih hx.2 fun y hy => hn y (List.mem_cons_of_mem _ hy)
    by_cases h : key x = n
    · simp only [List.filter_cons, h, decide_true, ne_eq, not_true_eq_false, decide_false, if_true,
        Bool.false_eq_true, if_false, List.cons_append]
      rw [← ih]
    · have hlt : ∀ y ∈ x :: xs, key y ≠ n := by
        have hnx := hn x List.mem_cons_self
        intro y hy
        rcases List.mem_cons.mp hy with rfl | hy
        · exact h
        · have := hx.1 y hy
          omega
      have hnone : (x :: xs).filter (key · = n) = [] := by simpa using hlt
      have hall : (x :: xs).filter (key · ≠ n) = x :: xs := by simpa using hlt
      rw [hnone, hall, List.nil_append]

/-- An ascending list is made of its parts with one number each, if these numbers are taken in ascending order. -/
theorem eq_flatMap_filter {β : Type} (key : α → Int) (number : β → Int) (bs : List β) (xs : List α)
    (hb : bs.Pairwise (number · < number ·)) (hx : xs.Pairwise (key · ≤ key ·))
    (hcover : ∀ x ∈ xs, ∃ b ∈ bs, key x = number b) :
    xs = bs.flatMap fun b => xs.filter (key · = number b) := by
  induction bs generalizing xs with
  | nil =>
    have : xs = [] := List.eq_nil_iff_forall_not_mem.mpr fun x hmem => by simpa using hcover x hmem
    simp [this]
  | cons b bs ih =>
    rw [List.pairwise_cons] at hb
    have hleast : ∀ x ∈ xs, number b ≤ key x := by
      intro x hmem
      obtain ⟨c, hc, hk⟩ := hcover x hmem
      rcases List.mem_cons.mp hc with rfl | hc
      · exact Int.le_of_eq hk.symm
      · have := hb.1 c hc
        omega
    have hrest : xs.filter (key · ≠ number b) =
        bs.flatMap fun c => (xs.filter (key · ≠ number b)).filter (key · = number c) := by
      apply ih _ hb.2 (hx.filter _)
      intro x hmem
      simp only [ne_eq, decide_not, List.mem_filter, Bool.not_eq_eq_eq_not, Bool.not_true,
        decide_eq_false_iff_not] at hmem
      obtain ⟨c, hc, hk⟩ := hcover x hmem.1
      rcases List.mem_cons.mp hc with rfl | hc
      · exact absurd hk hmem.2
      · exact ⟨c, hc, hk⟩
    have hpart : ∀ c ∈ bs, (xs.filter (key · ≠ number b)).filter (key · = number c) =
        xs.filter (key · = number c) := by
      intro c hc
      have := hb.1 c hc
      rw [List.filter_filter]
      apply List.filter_congr
      intro x _
      by_cases h : key x = number c
      · simp [h]; omega
      · simp [h]
    calc xs = xs.filter (key · = number b) ++ xs.filter (key · ≠ number b) :=
          eq_filter_append key (number b) xs hx hleast
      _ = xs.filter (key · = number b) ++ bs.flatMap fun c => xs.filter (key · = number c) := by
          rw [hrest]
          exact congrArg _ (List.flatMap_congr hpart)
      _ = (b :: bs).flatMap fun c => xs.filter (key · = number c) := by
          rw [List.flatMap_cons]

/-- The stable sorting by number, part by part. -/
theorem sorted_eq_flatMap {β : Type} (key : α → Int) (number : β → Int) (bs : List β) (xs : List α)
    (hb : bs.Pairwise (number · < number ·)) (hcover : ∀ x ∈ xs, ∃ b ∈ bs, key x = number b) :
    sorted (byKey key) xs = bs.flatMap fun b => xs.filter (key · = number b) := by
  rw [eq_flatMap_filter key number bs (sorted (byKey key) xs) hb (sorted_pairwise key xs)
    fun x hx => hcover x ((mem_sorted _ _ x).mp hx)]
  exact List.flatMap_congr fun b _ => filter_sorted key (number b) xs

end StateMachine
