import Mathlib.Data.List.Induction
import StateMachine.Assoc

/-!
# Ordered associations

Which keys and entries an association holds after binding and erasing, and what the groups of a list are.
-/

namespace StateMachine.Assoc

variable {κ α β : Type}

/-- No later element of the list has the key of this one. -/
def IsLast (key : β → κ) (xs : List β) (x : β) : Prop :=
  ∃ before after, xs = before ++ x :: after ∧ ∀ y ∈ after, key y ≠ key x

theorem isLast_concat (key : β → κ) (xs : List β) (x y : β) :
    IsLast key (xs ++ [x]) y ↔ y = x ∨ (key y ≠ key x ∧ IsLast key xs y) := by
  constructor
  · rintro ⟨before, after, hsplit, hlast⟩
    rcases List.eq_nil_or_concat after with rfl | ⟨after, z, rfl⟩
    · left
      have := congrArg List.getLast? hsplit
      simpa using this.symm
    · right
      rw [List.concat_eq_append] at hsplit hlast
      rw [← List.cons_append, ← List.append_assoc] at hsplit
      obtain ⟨rfl, hx⟩ := List.append_inj' hsplit rfl
      simp only [List.cons.injEq, and_true] at hx
      subst hx
      exact ⟨fun e => hlast x (by simp) e.symm, before, after, rfl, fun w hw => hlast w (by simp [hw])⟩
  · rintro (rfl | ⟨hne, before, after, rfl, hlast⟩)
    · exact ⟨xs, [], rfl, by simp⟩
    · refine ⟨before, after ++ [x], by simp, ?_⟩
      intro w hw
      rcases List.mem_append.mp hw with hw | hw
      · exact hlast w hw
      · rw [List.mem_singleton.mp hw]
        exact fun e => hne e.symm

theorem IsLast.mem {key : β → κ} {xs : List β} {x : β} (h : IsLast key xs x) : x ∈ xs := by
  obtain ⟨before, after, rfl, _⟩ := h
  simp

/-- The last element with a property that comes with its key. -/
theorem isLast_of_getLast?_filter (key : β → κ) (xs : List β) (p : β → Bool) (x : β)
    (hp : ∀ y ∈ xs, key y = key x → p y = true) (h : (xs.filter p).getLast? = some x) : IsLast key xs x := by
  induction xs using List.reverseRecOn with
  | nil => cases h
  | append_singleton xs z ih =>
    rw [isLast_concat]
    by_cases hz : p z = true
    · rw [List.filter_append, List.filter_cons_of_pos hz, List.filter_nil, List.getLast?_concat] at h
      exact Or.inl (Option.some.inj h).symm
    · rw [List.filter_append, List.filter_cons_of_neg hz, List.filter_nil, List.append_nil] at h
      refine Or.inr ⟨fun hkey => hz (hp z (by simp) hkey.symm), ih (fun y hy => ?_) h⟩
      exact hp y (List.mem_append_left _ hy)

/-- No earlier element of the list has the key of this one. -/
def IsFirst (key : β → κ) (xs : List β) (x : β) : Prop :=
  ∃ before after, xs = before ++ x :: after ∧ ∀ y ∈ before, key y ≠ key x

theorem isFirst_concat (key : β → κ) (xs : List β) (x y : β) :
    IsFirst key (xs ++ [x]) y ↔ IsFirst key xs y ∨ (y = x ∧ ∀ z ∈ xs, key z ≠ key x) := by
  constructor
  · rintro ⟨before, after, hsplit, hfirst⟩
    rcases List.eq_nil_or_concat after with rfl | ⟨after, z, rfl⟩
    · obtain ⟨rfl, hx⟩ := List.append_inj' hsplit rfl
      obtain rfl : x = y := (List.cons.inj hx).1
      exact Or.inr ⟨rfl, hfirst⟩
    · rw [List.concat_eq_append, ← List.cons_append, ← List.append_assoc] at hsplit
      exact Or.inl ⟨before, after, (List.append_inj' hsplit rfl).1, hfirst⟩
  · rintro (⟨before, after, rfl, hfirst⟩ | ⟨rfl, hfirst⟩)
    · exact ⟨before, after ++ [x], by simp, hfirst⟩
    · exact ⟨xs, [], rfl, hfirst⟩

theorem IsFirst.mem {key : β → κ} {xs : List β} {x : β} (h : IsFirst key xs x) : x ∈ xs := by
  obtain ⟨before, after, rfl, _⟩ := h
  simp

theorem exists_isFirst (key : β → κ) (xs : List β) (x : β) (h : x ∈ xs) :
    ∃ y, IsFirst key xs y ∧ key y = key x := by
  induction xs using List.reverseRecOn generalizing x with
  | nil => cases h
  | append_singleton xs z ih =>
    have hold : ∀ w ∈ xs, ∃ y, IsFirst key (xs ++ [z]) y ∧ key y = key w := by
      intro w hw
      obtain ⟨y, hy, hkey⟩ := ih w hw
      exact ⟨y, (isFirst_concat key xs z y).mpr (Or.inl hy), hkey⟩
    rcases List.mem_append.mp h with hx | hx
    · exact hold x hx
    · rw [List.mem_singleton.mp hx]
      by_cases hthere : ∃ w ∈ xs, key w = key z
      · obtain ⟨w, hw, hkey⟩ := hthere
        rw [← hkey]
        exact hold w hw
      · exact ⟨z, (isFirst_concat key xs z z).mpr (Or.inr ⟨rfl, fun w hw e => hthere ⟨w, hw, e⟩⟩), rfl⟩

theorem isFirst_iff_find? [DecidableEq κ] (key : β → κ) (xs : List β) (x : β) :
    IsFirst key xs x ↔ xs.find? (fun y => key y = key x) = some x := by
  simp [List.find?_eq_some_iff_append, IsFirst]

/-- Each key has one first element. -/
theorem IsFirst.unique {key : β → κ} {xs : List β} {x y : β} (hx : IsFirst key xs x) (hy : IsFirst key xs y)
    (hkey : key x = key y) : x = y := by
  classical
  rw [isFirst_iff_find?, hkey] at hx
  rw [isFirst_iff_find?, hx] at hy
  exact Option.some.inj hy

variable [BEq κ]

def keys (entries : List (κ × α)) : List κ := entries.map (·.1)

/-- Binds the key of each element in turn. -/
def bindAll (key : β → κ) (value : β → α) (xs : List β) : List (κ × α) :=
  xs.foldl (fun entries x => put (key x) (value x) entries) []

theorem bindAll_concat (key : β → κ) (value : β → α) (xs : List β) (x : β) :
    bindAll key value (xs ++ [x]) = put (key x) (value x) (bindAll key value xs) := by
  simp only [bindAll, List.foldl_append, List.foldl_cons, List.foldl_nil]

variable [LawfulBEq κ]

theorem has_iff (key : κ) (entries : List (κ × α)) : has key entries = true ↔ key ∈ keys entries := by
  simp only [has, keys, List.any_eq_true, beq_iff_eq, List.mem_map]

/-! ## Binding one key -/

theorem put_fresh (key : κ) (value : α) (entries : List (κ × α)) (h : key ∉ keys entries) :
    put key value entries = entries ++ [(key, value)] := by
  induction entries with
  | nil => rfl
  | cons entry rest ih =>
    obtain ⟨k, v⟩ := entry
    simp only [keys, List.map_cons, List.mem_cons, not_or] at h
    have hk : ¬ k = key := fun e => h.1 e.symm
    simp only [put, beq_iff_eq, hk, if_false, List.cons_append]
    rw [ih h.2]

theorem keys_put_present (key : κ) (value : α) (entries : List (κ × α)) (h : key ∈ keys entries) :
    keys (put key value entries) = keys entries := by
  induction entries with
  | nil => simp [keys] at h
  | cons entry rest ih =>
    obtain ⟨k, v⟩ := entry
    by_cases hk : k = key
    · simp [put, keys, hk]
    · have hrest : key ∈ keys rest := by
        rcases List.mem_cons.mp h with e | hr
        · exact absurd e.symm hk
        · exact hr
      have ih := ih hrest
      simp only [keys] at ih
      simp [put, keys, hk, ih]

theorem mem_keys_put (key : κ) (value : α) (entries : List (κ × α)) (k : κ) :
    k ∈ keys (put key value entries) ↔ k = key ∨ k ∈ keys entries := by
  by_cases h : key ∈ keys entries
  · rw [keys_put_present key value entries h]
    constructor
    · exact Or.inr
    · rintro (rfl | hk)
      · exact h
      · exact hk
  · rw [put_fresh key value entries h]
    simp [keys, or_comm]

theorem nodup_keys_put (key : κ) (value : α) (entries : List (κ × α)) (h : (keys entries).Nodup) :
    (keys (put key value entries)).Nodup := by
  by_cases hk : key ∈ keys entries
  · rw [keys_put_present key value entries hk]
    exact h
  · rw [put_fresh key value entries hk, keys, List.map_append, List.nodup_append]
    refine ⟨h, by simp, ?_⟩
    intro a ha b hb hab
    simp only [List.map_cons, List.map_nil, List.mem_singleton] at hb
    exact hk (hb ▸ hab ▸ ha)

/-- After binding a key its old value is gone, and all other entries are still there. -/
theorem mem_put_iff (key : κ) (value : α) (entries : List (κ × α)) (h : (keys entries).Nodup)
    (k : κ) (v : α) :
    (k, v) ∈ put key value entries ↔ (k = key ∧ v = value) ∨ (k ≠ key ∧ (k, v) ∈ entries) := by
  induction entries with
  | nil => simp [put]
  | cons entry rest ih =>
    obtain ⟨k', v'⟩ := entry
    simp only [keys, List.map_cons, List.nodup_cons] at h
    by_cases hk : k' = key
    · subst hk
      have hfresh : ∀ v, (k', v) ∉ rest := fun v hv => h.1 (List.mem_map_of_mem hv)
      simp only [put, beq_self_eq_true, if_true, List.mem_cons, Prod.mk.injEq]
      constructor
      · rintro (e | hr)
        · exact Or.inl e
        · exact Or.inr ⟨fun e => hfresh v (e ▸ hr), Or.inr hr⟩
      · rintro (e | ⟨hne, ⟨e, _⟩ | hr⟩)
        · exact Or.inl e
        · exact absurd e hne
        · exact Or.inr hr
    · simp only [put, beq_iff_eq, hk, if_false, List.mem_cons, Prod.mk.injEq, ih h.2]
      constructor
      · rintro (⟨rfl, rfl⟩ | e | ⟨hne, hr⟩)
        · exact Or.inr ⟨hk, Or.inl ⟨rfl, rfl⟩⟩
        · exact Or.inl e
        · exact Or.inr ⟨hne, Or.inr hr⟩
      · rintro (e | ⟨hne, e | hr⟩)
        · exact Or.inr (Or.inl e)
        · exact Or.inl e
        · exact Or.inr (Or.inr ⟨hne, hr⟩)

theorem filter_put (p : κ → Bool) (key : κ) (value : α) (entries : List (κ × α)) :
    (put key value entries).filter (fun entry => p entry.1) =
      if p key then put key value (entries.filter fun entry => p entry.1) else entries.filter fun entry => p entry.1 := by
  induction entries with
  | nil => cases hp : p key <;> simp [put, hp]
  | cons entry rest ih =>
    obtain ⟨k, v⟩ := entry
    by_cases hk : k = key
    · subst hk
      cases hp : p k <;> simp [put, hp]
    · cases hp : p k <;> simp [put, hp, hk, ih, apply_ite (List.cons _)]

/-! ## Binding the keys of a list -/

variable (key : β → κ) (value : β → α)

theorem nodup_keys_bindAll (xs : List β) : (keys (bindAll key value xs)).Nodup := by
  induction xs using List.reverseRecOn with
  | nil => exact List.nodup_nil
  | append_singleton xs x ih =>
    rw [bindAll_concat]
    exact nodup_keys_put _ _ _ ih

theorem mem_keys_bindAll (xs : List β) (k : κ) : k ∈ keys (bindAll key value xs) ↔ ∃ x ∈ xs, key x = k := by
  induction xs using List.reverseRecOn with
  | nil => simp [bindAll, keys]
  | append_singleton xs x ih =>
    rw [bindAll_concat, mem_keys_put, ih]
    constructor
    · rintro (rfl | ⟨y, hy, rfl⟩)
      · exact ⟨x, by simp, rfl⟩
      · exact ⟨y, by simp [hy], rfl⟩
    · rintro ⟨y, hy, rfl⟩
      rcases List.mem_append.mp hy with hy | hy
      · exact Or.inr ⟨y, hy, rfl⟩
      · exact Or.inl (congrArg key (List.mem_singleton.mp hy))

/-- Entries whose keys have a property come from the elements whose keys have it. -/
theorem filter_bindAll (p : κ → Bool) (xs : List β) : (bindAll key value xs).filter (fun entry => p entry.1) =
    bindAll key value (xs.filter fun x => p (key x)) := by
  induction xs using List.reverseRecOn with
  | nil => rfl
  | append_singleton xs x ih =>
    rw [bindAll_concat, filter_put, ih, List.filter_append, List.filter_cons, List.filter_nil]
    cases p (key x) with
    | true => exact (bindAll_concat key value _ x).symm
    | false => rw [if_neg Bool.false_ne_true, if_neg Bool.false_ne_true, List.append_nil]

/-- With distinct keys, the entries are those of the list, in its order. -/
theorem bindAll_eq_map (xs : List β) (h : (xs.map key).Nodup) :
    bindAll key value xs = xs.map fun x => (key x, value x) := by
  induction xs using List.reverseRecOn with
  | nil => rfl
  | append_singleton xs x ih =>
    rw [List.map_append, List.nodup_append] at h
    have hfresh : key x ∉ keys (bindAll key value xs) := by
      rw [mem_keys_bindAll]
      rintro ⟨y, hy, hk⟩
      exact h.2.2 _ (List.mem_map_of_mem hy) (key x) (by simp) hk
    rw [bindAll_concat, put_fresh _ _ _ hfresh, ih h.1, List.map_append]
    rfl

/-- An entry comes from the last element with its key: an element is lost if a later one has its key. -/
theorem mem_bindAll_iff (xs : List β) (k : κ) (v : α) :
    (k, v) ∈ bindAll key value xs ↔ ∃ x, IsLast key xs x ∧ k = key x ∧ v = value x := by
  induction xs using List.reverseRecOn with
  | nil => simp [bindAll, IsLast]
  | append_singleton xs x ih =>
    rw [bindAll_concat, mem_put_iff _ _ _ (nodup_keys_bindAll key value xs), ih]
    constructor
    · rintro (⟨rfl, rfl⟩ | ⟨hne, y, hy, rfl, rfl⟩)
      · exact ⟨x, (isLast_concat key xs x x).mpr (Or.inl rfl), rfl, rfl⟩
      · exact ⟨y, (isLast_concat key xs x y).mpr (Or.inr ⟨hne, hy⟩), rfl, rfl⟩
    · rintro ⟨y, hy, rfl, rfl⟩
      rcases (isLast_concat key xs x y).mp hy with rfl | ⟨hne, hy⟩
      · exact Or.inl ⟨rfl, rfl⟩
      · exact Or.inr ⟨hne, y, hy, rfl, rfl⟩

/-! ## Filling gaps -/

omit [LawfulBEq κ] in
/-- Binds the key of each element in turn, but only if nothing has the key yet. -/
def fill (key : β → κ) (value : β → α) (xs : List β) (entries : List (κ × α)) : List (κ × α) :=
  xs.foldl (fun entries x => if has (key x) entries then entries else entries ++ [(key x, value x)]) entries

theorem fill_cons (x : β) (xs : List β) (entries : List (κ × α)) :
    (key x ∈ keys entries ∧ fill key value (x :: xs) entries = fill key value xs entries) ∨
    (key x ∉ keys entries ∧
      fill key value (x :: xs) entries = fill key value xs (entries ++ [(key x, value x)])) := by
  rw [← has_iff, fill, List.foldl_cons]
  cases has (key x) entries with
  | true => exact Or.inl ⟨rfl, rfl⟩
  | false => exact Or.inr ⟨by simp, rfl⟩

theorem nodup_keys_fill (xs : List β) (entries : List (κ × α)) (h : (keys entries).Nodup) :
    (keys (fill key value xs entries)).Nodup := by
  induction xs generalizing entries with
  | nil => exact h
  | cons x xs ih =>
    rcases fill_cons key value x xs entries with ⟨_, heq⟩ | ⟨hfresh, heq⟩
    · rw [heq]
      exact ih entries h
    · rw [heq]
      apply ih
      rw [← put_fresh _ _ _ hfresh]
      exact nodup_keys_put _ _ _ h

omit [LawfulBEq κ] in
theorem fill_append (xs ys : List β) (entries : List (κ × α)) :
    fill key value (xs ++ ys) entries = fill key value ys (fill key value xs entries) := List.foldl_append

omit [LawfulBEq κ] in
theorem fill_concat (xs : List β) (x : β) (entries : List (κ × α)) :
    fill key value (xs ++ [x]) entries =
      if has (key x) (fill key value xs entries) then fill key value xs entries
      else fill key value xs entries ++ [(key x, value x)] := by
  rw [fill_append]
  rfl

/-- Elements whose keys are bound add nothing. -/
theorem fill_of_bound (xs : List β) (entries : List (κ × α)) (h : ∀ x ∈ xs, key x ∈ keys entries) :
    fill key value xs entries = entries := by
  induction xs with
  | nil => rfl
  | cons x xs ih =>
    obtain ⟨hx, hrest⟩ := List.forall_mem_cons.mp h
    rcases fill_cons key value x xs entries with ⟨_, heq⟩ | ⟨hfresh, _⟩
    · rw [heq, ih hrest]
    · exact absurd hx hfresh

theorem mem_keys_fill (xs : List β) (entries : List (κ × α)) (k : κ) :
    k ∈ keys (fill key value xs entries) ↔ k ∈ keys entries ∨ ∃ x ∈ xs, key x = k := by
  induction xs using List.reverseRecOn with
  | nil => simp [fill]
  | append_singleton xs x ih =>
    simp only [List.mem_append, List.mem_singleton, or_and_right, exists_or, exists_eq_left, ← or_assoc, ← ih]
    rw [fill_concat]
    split
    case isTrue hbound =>
      rw [has_iff] at hbound
      exact ⟨Or.inl, fun h => h.elim id fun e => e ▸ hbound⟩
    case isFalse => simp [keys, eq_comm]

/-- Filling keeps all entries. What it adds comes from the first elements with their keys, if those were not bound. -/
theorem mem_fill_iff (xs : List β) (entries : List (κ × α)) (entry : κ × α) :
    entry ∈ fill key value xs entries ↔
      entry ∈ entries ∨ ∃ x, IsFirst key xs x ∧ key x ∉ keys entries ∧ entry = (key x, value x) := by
  induction xs using List.reverseRecOn with
  | nil => simp [fill, IsFirst]
  | append_singleton xs x ih =>
    simp only [isFirst_concat, or_and_right, exists_or, ← or_assoc, ← ih]
    rw [fill_concat]
    split
    case isTrue hbound =>
      rw [has_iff, mem_keys_fill] at hbound
      refine ⟨Or.inl, fun h => h.elim id ?_⟩
      rintro ⟨y, ⟨rfl, hfresh⟩, hopen, _⟩
      obtain ⟨z, hz, hkey⟩ := hbound.resolve_left hopen
      exact absurd hkey (hfresh z hz)
    case isFalse hfresh =>
      rw [has_iff, mem_keys_fill, not_or] at hfresh
      have hnone : ∀ z ∈ xs, key z ≠ key x := fun z hz hkey => hfresh.2 ⟨z, hz, hkey⟩
      rw [List.mem_append, List.mem_singleton]
      refine or_congr_right ⟨fun h => ⟨x, ⟨rfl, hnone⟩, hfresh.1, h⟩, ?_⟩
      rintro ⟨y, ⟨rfl, _⟩, _, h⟩
      exact h

/-- Where nothing is bound at first, the entries come from the first elements with their keys. -/
theorem mem_fill_nil_iff (xs : List β) (entry : κ × α) :
    entry ∈ fill key value xs [] ↔ ∃ x, IsFirst key xs x ∧ entry = (key x, value x) := by
  simp [mem_fill_iff, keys]

/-- With distinct keys, each element stands or falls by the entries that were there at first. -/
theorem fill_eq_append (xs : List β) (entries : List (κ × α)) (h : (xs.map key).Nodup) :
    fill key value xs entries =
      entries ++ (xs.filter fun x => !has (key x) entries).map fun x => (key x, value x) := by
  induction xs generalizing entries with
  | nil => simp [fill]
  | cons x xs ih =>
    rw [List.map_cons, List.nodup_cons] at h
    rcases fill_cons key value x xs entries with ⟨hbound, heq⟩ | ⟨hfresh, heq⟩
    · rw [heq, ih entries h.2, List.filter_cons_of_neg (by simpa [has_iff] using hbound)]
    · rw [heq, ih _ h.2, List.filter_cons_of_pos (by simpa [← has_iff] using hfresh), List.map_cons,
        List.append_assoc, List.singleton_append]
      have hsame : ∀ y ∈ xs, (!has (key y) (entries ++ [(key x, value x)])) = !has (key y) entries := by
        intro y hy
        have hne : key x ≠ key y := fun e => h.1 (e ▸ List.mem_map_of_mem hy)
        simp [has, hne]
      rw [List.filter_congr hsame]

/-! ## Looking up -/

theorem lookup_eq_some_iff_mem (entries : List (κ × α)) (h : (keys entries).Nodup) (k : κ) (v : α) :
    entries.lookup k = some v ↔ (k, v) ∈ entries := by
  induction entries with
  | nil => simp
  | cons entry rest ih =>
    obtain ⟨k', v'⟩ := entry
    simp only [keys, List.map_cons, List.nodup_cons] at h
    by_cases hk : k = k'
    · subst hk
      have hfresh : (k, v) ∉ rest := fun hv => h.1 (List.mem_map_of_mem hv)
      simp [hfresh, eq_comm]
    · rw [List.lookup_cons, beq_false_of_ne hk]
      simp [hk, ih h.2]

theorem lookup_eq_none_iff_keys (entries : List (κ × α)) (k : κ) :
    entries.lookup k = none ↔ k ∉ keys entries := by
  simp only [List.lookup_eq_none_iff, keys, List.mem_map, bne_iff_ne, ne_eq, not_exists, not_and]
  exact ⟨fun h e he hk => h e he hk.symm, fun h e he hk => h e he hk.symm⟩

/-- Equal associations with distinct keys, in whatever order, answer lookups alike. -/
theorem lookup_eq_of_perm {entries others : List (κ × α)} (hperm : entries.Perm others) (h : (keys entries).Nodup)
    (k : κ) : entries.lookup k = others.lookup k := by
  have h' : (keys others).Nodup := (hperm.map _).nodup_iff.mp h
  ext v
  rw [lookup_eq_some_iff_mem entries h, lookup_eq_some_iff_mem others h', hperm.mem_iff]

/-! ## Groups -/

omit [LawfulBEq κ] in
theorem groupBy_concat (xs : List β) (x : β) :
    groupBy key (xs ++ [x]) =
      put (key x) (((groupBy key xs).lookup (key x)).getD [] ++ [x]) (groupBy key xs) := by
  simp only [groupBy, List.foldl_append, List.foldl_cons, List.foldl_nil]

theorem nodup_keys_groupBy (xs : List β) : (keys (groupBy key xs)).Nodup := by
  induction xs using List.reverseRecOn with
  | nil => exact List.nodup_nil
  | append_singleton xs x ih =>
    rw [groupBy_concat]
    exact nodup_keys_put _ _ _ ih

/-- There is one group for each key, and it holds all elements with that key in their order. -/
theorem mem_groupBy_iff (xs : List β) (k : κ) (group : List β) :
    (k, group) ∈ groupBy key xs ↔ (∃ x ∈ xs, key x = k) ∧ group = xs.filter (key · == k) := by
  induction xs using List.reverseRecOn generalizing k group with
  | nil => simp [groupBy]
  | append_singleton xs x ih =>
    have hnodup := nodup_keys_groupBy key xs
    have hold : ((groupBy key xs).lookup (key x)).getD [] = xs.filter (key · == key x) := by
      cases hfound : (groupBy key xs).lookup (key x) with
      | some held =>
        exact ((ih _ _).mp ((lookup_eq_some_iff_mem _ hnodup _ _).mp hfound)).2
      | none =>
        refine (List.filter_eq_nil_iff.mpr fun y hy hk => ?_).symm
        have hmem := (ih (key x) _).mpr ⟨⟨y, hy, beq_iff_eq.mp hk⟩, rfl⟩
        exact (lookup_eq_none_iff_keys _ _).mp hfound (List.mem_map_of_mem hmem)
    rw [groupBy_concat, mem_put_iff _ _ _ hnodup, hold, ih, List.filter_append]
    by_cases hk : key x = k
    · subst hk
      simp
    · have hk' : ¬ k = key x := fun e => hk e.symm
      simp [hk, hk', or_and_right, exists_or]

theorem mem_groupBy_iff_ne_nil (xs : List β) (k : κ) (group : List β) :
    (k, group) ∈ groupBy key xs ↔ group ≠ [] ∧ group = xs.filter (key · == k) := by
  rw [mem_groupBy_iff]
  refine and_congr_left ?_
  rintro rfl
  simp [List.filter_eq_nil_iff]

theorem keys_groupBy (xs : List β) : keys (groupBy key xs) = (xs.map key).eraseDups := by
  induction xs using List.reverseRecOn with
  | nil => rfl
  | append_singleton xs x ih =>
    rw [groupBy_concat, List.map_append, List.eraseDups_append, List.map_singleton, ← ih]
    by_cases hold : key x ∈ keys (groupBy key xs)
    · rw [keys_put_present _ _ _ hold]
      rw [ih, List.mem_eraseDups] at hold
      simp [List.removeAll, hold]
    · rw [put_fresh _ _ _ hold, keys, List.map_append, ← keys]
      rw [ih, List.mem_eraseDups] at hold
      simp [List.removeAll, hold, List.eraseDups_cons]

/-- The groups come in the order in which their keys come first. -/
theorem groupBy_eq (xs : List β) :
    groupBy key xs = (xs.map key).eraseDups.map fun k => (k, xs.filter (key · == k)) := by
  rw [← keys_groupBy, keys, List.map_map]
  refine (List.map_id _).symm.trans (List.map_congr_left fun entry hentry => ?_)
  exact Prod.ext rfl ((mem_groupBy_iff key xs entry.1 entry.2).mp hentry).2

end StateMachine.Assoc
