import StateMachine.Pattern.Reading

/-!
# Reading side by side

A pattern is read alone, and before a closing parenthesis that is not its own. A step does the same for both, or the
pattern cannot be read alone and no parenthesis is left that could close what was opened before it.
-/

namespace StateMachine.Pattern

open Reading

/-! ## Steps that go forward -/

/-- A reader that is further than another one has some of its last tokens left, and all flags that were set. -/
structure Reader.Reaches (r s : Reader) : Prop where
  tokens : s.tokens <:+ r.tokens
  flags : r.flags <+: s.flags

theorem Reader.Reaches.refl (r : Reader) : r.Reaches r := ⟨List.suffix_rfl, List.prefix_rfl⟩

theorem Reader.Reaches.length_le {r s : Reader} (h : r.Reaches s) : s.tokens.length ≤ r.tokens.length :=
  h.tokens.length_le

theorem Reader.Reaches.trans {r s t : Reader} (h : r.Reaches s) (h' : s.Reaches t) : r.Reaches t :=
  ⟨h'.tokens.trans h.tokens, h.flags.trans h'.flags⟩

/-- What a step of reading comes to. -/
abbrev Result (α : Type) := Except Failure (α × Reader)

/-- A step that never takes anything back. -/
def Forward {α : Type} (x : Reading α) : Prop := ∀ r a s, x r = .ok (a, s) → r.Reaches s

section
variable {α β : Type}

theorem bind_eq_ok_iff {x : Reading α} {f : α → Reading β} {r : Reader} {b : β} {s : Reader} :
    (x >>= f) r = .ok (b, s) ↔ ∃ a t, x r = .ok (a, t) ∧ f a t = .ok (b, s) := by
  change (x r >>= fun p => f p.1 p.2) = _ ↔ _
  cases x r with
  | error e => exact iff_of_false (fun h => nomatch h) fun ⟨_, _, h, _⟩ => nomatch h
  | ok p => exact ⟨fun h => ⟨p.1, p.2, rfl, h⟩, fun ⟨_, _, h, hf⟩ => by cases h; exact hf⟩

theorem bind_of_ok {x : Reading α} {f : α → Reading β} {r : Reader} {a : α} {s : Reader} (h : x r = .ok (a, s)) :
    (x >>= f) r = f a s := by
  change (x r >>= fun p => f p.1 p.2) = _
  rw [h]
  rfl

/-- What follows depends on what a step comes to. -/
theorem bind_eq_bind {x y : Reading α} {r s : Reader} (h : x r = y s) (f : α → Reading β) :
    (x >>= f) r = (y >>= f) s := by
  change (x r >>= fun p => f p.1 p.2) = _
  rw [h]
  rfl

theorem bind_of_error {x : Reading α} {f : α → Reading β} {r : Reader} {e : Failure} (h : x r = .error e) :
    (x >>= f) r = .error e := by
  change (x r >>= fun p => f p.1 p.2) = _
  rw [h]
  rfl

theorem forward_pure (a : α) : Forward (pure a : Reading α) := by
  intro r b s h
  cases h
  exact .refl r

theorem Forward.ite {c : Prop} [Decidable c] {x y : Reading α} (hx : Forward x) (hy : Forward y) :
    Forward (if c then x else y) := by
  split
  · exact hx
  · exact hy

theorem forward_get : Forward (get : Reading Reader) := by
  intro r a s h
  cases h
  exact .refl r

theorem Forward.bind {x : Reading α} {f : α → Reading β} (hx : Forward x) (hf : ∀ a, Forward (f a)) :
    Forward (x >>= f) := by
  intro r b s h
  obtain ⟨a, t, ha, hb⟩ := bind_eq_ok_iff.mp h
  exact (hx r a t ha).trans (hf a t b s hb)

theorem forward_modify {f : Reader → Reader} (h : ∀ r : Reader, r.Reaches (f r)) :
    Forward (modify f : Reading Unit) := by
  intro r a s heq
  cases heq
  exact h r

end

/-! ## Tokens -/

section
variable {r : Reader} {t : Token} {rest : List Token}

theorem checkDangling_ok (h : r.tokens.head?.any Token.isDangling = false) :
    Reading.checkDangling r = .ok ((), r) := by
  obtain ⟨tokens⟩ := r
  cases tokens with
  | nil => rfl
  | cons t rest =>
    have ht : t.isDangling = false := h
    rw [Reading.checkDangling, bind_of_ok (x := get) rfl]
    dsimp only
    rw [ht]
    rfl

theorem checkDangling_error (h : r.tokens.head?.any Token.isDangling = true) :
    ∃ e, Reading.checkDangling r = .error e := by
  obtain ⟨tokens⟩ := r
  cases tokens with
  | nil => cases h
  | cons t rest =>
    have ht : t.isDangling = true := h
    rw [Reading.checkDangling, bind_of_ok (x := get) rfl]
    dsimp only
    rw [ht]
    exact ⟨_, rfl⟩

theorem next_nil (h : r.tokens = []) : Reading.next r = .ok (none, r) := by
  rw [Reading.next, bind_of_ok (x := get) rfl, h]
  rfl

theorem next_cons (h : r.tokens = t :: rest) (hrest : rest.head?.any Token.isDangling = false) :
    Reading.next r = .ok (some t, { r with tokens := rest }) := by
  rw [Reading.next, bind_of_ok (x := get) rfl, h]
  have hcheck := checkDangling_ok (r := { r with tokens := rest }) hrest
  dsimp only
  rw [bind_of_ok (x := set _) rfl, bind_of_ok hcheck]
  rfl

theorem next_dangling (h : r.tokens = t :: rest) (hrest : rest.head?.any Token.isDangling = true) :
    ∃ e, Reading.next r = .error e := by
  rw [Reading.next, bind_of_ok (x := get) rfl, h]
  obtain ⟨e, he⟩ := checkDangling_error (r := { r with tokens := rest }) hrest
  refine ⟨e, ?_⟩
  dsimp only
  rw [bind_of_ok (x := set _) rfl, bind_of_error he]

theorem next_eq_ok {a : Option Token} {s : Reader} (h : Reading.next r = .ok (a, s)) :
    (r.tokens = [] ∧ s = r) ∨ ∃ t rest, r.tokens = t :: rest ∧ s = { r with tokens := rest } := by
  cases htokens : r.tokens with
  | nil =>
    rw [next_nil htokens] at h
    cases h
    exact Or.inl ⟨rfl, rfl⟩
  | cons t rest =>
    cases hdangling : rest.head?.any Token.isDangling with
    | true =>
      obtain ⟨e, he⟩ := next_dangling htokens hdangling
      rw [he] at h
      cases h
    | false =>
      rw [next_cons htokens hdangling] at h
      cases h
      exact Or.inr ⟨t, rest, rfl, rfl⟩

theorem forward_next : Forward Reading.next := by
  intro r a s h
  rcases next_eq_ok h with ⟨-, rfl⟩ | ⟨t, rest, htokens, rfl⟩
  · exact .refl s
  · exact ⟨htokens ▸ List.suffix_cons t rest, List.prefix_rfl⟩

end

/-- Tokens, and the same tokens before a closing parenthesis. A backslash at the end goes together with it. -/
inductive Extends : List Token → List Token → Prop
  | closed (u : Token) (hu : u.chars = [')']) : Extends [] [u]
  | escaped (t u v w : Token) (hchars : t.chars = u.chars) (ht : t.isDangling = false) (hv : v.chars = ['\\'])
      (hw : w.chars = ['\\', ')']) : Extends [t, v] [u, w]
  | cons (t u : Token) (hchars : t.chars = u.chars) (ht : t.isDangling = false) {ts us : List Token}
      (h : Extends ts us) : Extends (t :: ts) (u :: us)

/-- No closing parenthesis is left. -/
def Reader.Unclosed (r : Reader) : Prop := ∀ t ∈ r.tokens, t.isChar ')' = false

/-- Readers that know the same. -/
structure Reader.Alike (r s : Reader) : Prop where
  groups : r.groups = s.groups
  closed : r.closed = s.closed
  names : r.names = s.names
  innerGroups : r.innerGroups = s.innerGroups
  conditions : r.conditions.map (·.1) = s.conditions.map (·.1)
  flags : r.flags = s.flags

/-- Readers of a pattern alone and before a closing parenthesis, at the same place. No flags were set for the whole
pattern. -/
structure Reader.Beside (r s : Reader) : Prop extends r.Alike s where
  unset : r.flags = []
  tokens : Extends r.tokens s.tokens

/-! ## Two readings at once -/

section
variable {α β : Type} {n m : Nat}

/-- A reading that failed, or after which no closing parenthesis is left. -/
def Stranded (x : Result α) : Prop := ∀ a s, x = .ok (a, s) → s.Unclosed

/-- What two readings come to that began side by side. In verbose patterns, a comment may hide the parenthesis. -/
inductive Meet (verbose : Bool) (x y : Result α) : Prop
  | same (a : α) (s t : Reader) (h : s.Beside t) (hx : x = .ok (a, s)) (hy : y = .ok (a, t))
  | lost (hx : Stranded x) (hy : Stranded y) (hfail : verbose = false → ∃ e, x = .error e)

theorem stranded_error (e : Failure) : Stranded (.error e : Result α) := fun _ _ h => nomatch h

theorem Stranded.bind {x : Reading α} {f : α → Reading β} {r : Reader} (hx : Stranded (x r)) (hf : ∀ a, Forward (f a)) :
    Stranded ((x >>= f) r) := by
  intro b s h
  obtain ⟨a, t, ha, hb⟩ := bind_eq_ok_iff.mp h
  exact fun u hu => hx a t ha u ((hf a t b s hb).tokens.subset hu)

/-- A step that always fails. -/
def Fails (x : Reading α) : Prop := ∀ r, ∃ e, x r = .error e

theorem fails_fail (message : String) (offset : Nat) : Fails (Reading.fail message offset : Reading α) :=
  fun _ => ⟨_, rfl⟩

theorem Fails.bind {x : Reading α} {f : α → Reading β} (h : Fails x) : Fails (x >>= f) := by
  intro r
  obtain ⟨e, he⟩ := h r
  exact ⟨e, bind_of_error he⟩

theorem fails_failFrom (message : String) (start : Nat) :
    Fails (do Reading.fail message ((← Reading.tell) - start) : Reading α) := fun _ => ⟨_, rfl⟩

theorem Fails.ite {c : Prop} [Decidable c] {x y : Reading α} (hx : Fails x) (hy : Fails y) :
    Fails (if c then x else y) := by
  split
  · exact hx
  · exact hy

theorem Fails.forward {x : Reading α} (h : Fails x) : Forward x := by
  intro r a s heq
  obtain ⟨e, he⟩ := h r
  rw [he] at heq
  cases heq

theorem forward_fail (message : String) (offset : Nat) : Forward (Reading.fail message offset : Reading α) :=
  (fails_fail message offset).forward

/-- Two readings that come to the same from readers side by side, if few enough tokens are left. -/
structure Parallel (n m : Nat) (x y : Reading α) : Prop where
  left : Forward x
  right : Forward y
  meet : ∀ r s, r.Beside s → r.tokens.length < n → s.tokens.length < m → Meet false (x r) (y s)

theorem parallel_pure (a : α) : Parallel n m (pure a : Reading α) (pure a) :=
  ⟨forward_pure a, forward_pure a, fun r s h _ _ => .same a r s h rfl rfl⟩

theorem parallel_of_fails {x y : Reading α} (hx : Fails x) (hy : Fails y) : Parallel n m x y where
  left := hx.forward
  right := hy.forward
  meet r s _ _ _ := by
    obtain ⟨e, he⟩ := hx r
    obtain ⟨e', he'⟩ := hy s
    rw [he, he']
    exact .lost (stranded_error e) (stranded_error e') fun _ => ⟨e, rfl⟩

theorem Parallel.mono {n' m' : Nat} {x y : Reading α} (h : Parallel n m x y) (hn : n' ≤ n) (hm : m' ≤ m) :
    Parallel n' m' x y :=
  ⟨h.left, h.right, fun r s hside hn' hm' => h.meet r s hside (by omega) (by omega)⟩

/-- Nothing is left to compare where no reader has few enough tokens. -/
theorem parallel_of_zero {x y : Reading α} (hx : Forward x) (hy : Forward y) (h : n = 0 ∨ m = 0) :
    Parallel n m x y where
  left := hx
  right := hy
  meet _ _ _ hn hm := by omega

theorem parallel_throw (failure : Failure) : Parallel n m (throw failure : Reading α) (throw failure) :=
  parallel_of_fails (fun _ => ⟨failure, rfl⟩) fun _ => ⟨failure, rfl⟩

theorem parallel_fail (message message' : String) (offset offset' : Nat) :
    Parallel n m (Reading.fail message offset : Reading α) (Reading.fail message' offset') :=
  parallel_of_fails (fails_fail _ _) (fails_fail _ _)

/-- If one step after another is read, the first may end in the same way, and then the second one decides. -/
theorem Meet.bind_or {verbose : Bool} {P : Result β → Result β → Prop} {x y : Reading α} {f g : α → Reading β}
    {r s : Reader} (h : Meet false (x r) (y s)) (hg : ∀ a, Forward (g a))
    (hfg : ∀ a t u, x r = .ok (a, t) → y s = .ok (a, u) → t.Beside u →
      Meet verbose (f a t) (g a u) ∨ P (f a t) (g a u)) :
    Meet verbose ((x >>= f) r) ((y >>= g) s) ∨ P ((x >>= f) r) ((y >>= g) s) := by
  cases h with
  | same a t u hside hx hy =>
    rw [bind_of_ok hx, bind_of_ok hy]
    exact hfg a t u hx hy hside
  | lost hx hy hfail =>
    obtain ⟨e, he⟩ := hfail rfl
    rw [bind_of_error he]
    exact Or.inl (.lost (stranded_error e) (hy.bind hg) fun _ => ⟨e, rfl⟩)

theorem Meet.bind {verbose : Bool} {x y : Reading α} {f g : α → Reading β} {r s : Reader} (h : Meet false (x r) (y s))
    (hg : ∀ a, Forward (g a))
    (hfg : ∀ a t u, x r = .ok (a, t) → y s = .ok (a, u) → t.Beside u → Meet verbose (f a t) (g a u)) :
    Meet verbose ((x >>= f) r) ((y >>= g) s) :=
  (h.bind_or (P := fun _ _ => False) hg fun a t u hx hy hside => Or.inl (hfg a t u hx hy hside)).resolve_right id

theorem Parallel.bind {x y : Reading α} {f g : α → Reading β} (h : Parallel n m x y)
    (hfg : ∀ a, Parallel n m (f a) (g a)) : Parallel n m (x >>= f) (y >>= g) where
  left := h.left.bind fun a => (hfg a).left
  right := h.right.bind fun a => (hfg a).right
  meet r s hside hn hm := (h.meet r s hside hn hm).bind (fun a => (hfg a).right) fun a t u hx hy hside =>
    (hfg a).meet t u hside (Nat.lt_of_le_of_lt (h.left r a t hx).length_le hn)
      (Nat.lt_of_le_of_lt (h.right s a u hy).length_le hm)

theorem Parallel.ite {c : Prop} [Decidable c] {x y x' y' : Reading α} (h : Parallel n m x y) (h' : Parallel n m x' y') :
    Parallel n m (if c then x else x') (if c then y else y') := by
  split
  · exact h
  · exact h'

/-- Positions differ, and nothing but errors depends on them. -/
theorem Parallel.tell_bind {f g : Nat → Reading α} (h : ∀ i j, Parallel n m (f i) (g j)) :
    Parallel n m (Reading.tell >>= f) (Reading.tell >>= g) where
  left r a s heq := (h _ 0).left r a s heq
  right r a s heq := (h 0 _).right r a s heq
  meet r s := (h _ _).meet r s

theorem Reader.Alike.refl (r : Reader) : r.Alike r := ⟨rfl, rfl, rfl, rfl, rfl, rfl⟩

theorem Parallel.get_bind {f g : Reader → Reading α} (h : ∀ r s, r.Alike s → Parallel n m (f r) (g s)) :
    Parallel n m (get >>= f) (get >>= g) where
  left r a s heq := (h r r (.refl r)).left r a s heq
  right r a s heq := (h r r (.refl r)).right r a s heq
  meet r s hside := (h r s hside.toAlike).meet r s hside

theorem parallel_modify {f g : Reader → Reader} (hf : ∀ r : Reader, r.Reaches (f r))
    (hg : ∀ r : Reader, r.Reaches (g r)) (h : ∀ r s : Reader, r.Beside s → (f r).Beside (g s)) :
    Parallel n m (modify f : Reading Unit) (modify g) :=
  ⟨forward_modify hf, forward_modify hg, fun r s hside _ _ => .same () (f r) (g s) (h r s hside) rfl rfl⟩

end

/-! ## Taking tokens -/

/-- What readers side by side see and take next. -/
inductive Nexts (r s : Reader) : Prop
  | ended (u : Token) (hr : r.tokens = []) (hs : s.tokens = [u]) (hu : u.chars = [')'])
      (hy : Reading.next s = .ok (some u, { s with tokens := [] }))
  | both (t u : Token) (r' s' : Reader) (hr : r.tokens.head? = some t) (hs : s.tokens.head? = some u)
      (hchars : t.chars = u.chars) (hside : r'.Beside s') (hlt : r'.tokens.length < r.tokens.length)
      (hlt' : s'.tokens.length < s.tokens.length) (hx : Reading.next r = .ok (some t, r'))
      (hy : Reading.next s = .ok (some u, s'))
  | dangling (t u : Token) (s' : Reader) (hr : r.tokens.head? = some t) (hs : s.tokens.head? = some u)
      (hchars : t.chars = u.chars) (hunclosed : s'.Unclosed) (hx : ∃ e, Reading.next r = .error e)
      (hy : Reading.next s = .ok (some u, s'))

theorem Token.isDangling_congr {t u : Token} (h : t.chars = u.chars) : t.isDangling = u.isDangling := by
  rw [Token.isDangling, Token.isDangling, h]

theorem Extends.head {ts us : List Token} (h : Extends ts us) :
    ts.head?.any Token.isDangling = false ∧ us.head?.any Token.isDangling = false := by
  cases h with
  | closed u hu => simp [Token.isDangling, hu]
  | escaped t u v w hchars ht hv hw => exact ⟨ht, (Token.isDangling_congr hchars).symm.trans ht⟩
  | cons t u hchars ht h => exact ⟨ht, (Token.isDangling_congr hchars).symm.trans ht⟩

theorem Reader.Beside.nexts {r s : Reader} (h : r.Beside s) : Nexts r s := by
  obtain ⟨halike, hunset, htokens⟩ := h
  generalize hts : r.tokens = ts at htokens
  generalize hus : s.tokens = us at htokens
  cases htokens with
  | closed u hu => exact .ended u hts hus hu (next_cons hus rfl)
  | escaped t u v w hchars ht hv hw =>
    refine .dangling t u { s with tokens := [w] } (by rw [hts]; rfl) (by rw [hus]; rfl) hchars ?_
      (next_dangling hts (by simp [Token.isDangling, hv])) (next_cons hus (by simp [Token.isDangling, hw]))
    intro t ht
    rw [List.mem_singleton.mp ht, Token.isChar, hw]
    rfl
  | @cons t u hchars ht ts' us' hrest =>
    exact .both t u { r with tokens := ts' } { s with tokens := us' } (by rw [hts]; rfl) (by rw [hus]; rfl) hchars
      ⟨⟨halike.groups, halike.closed, halike.names, halike.innerGroups, halike.conditions, halike.flags⟩, hunset, hrest⟩
      (by rw [hts]; exact Nat.lt_succ_self _) (by rw [hus]; exact Nat.lt_succ_self _) (next_cons hts hrest.head.1)
      (next_cons hus hrest.head.2)

section
variable {α : Type} {n m : Nat}

/-- Readers side by side take the next token, by a step that fails at the end of the pattern. -/
theorem Meet.next_bind_or {verbose : Bool} {P : Result α → Result α → Prop} {f g : Option Token → Reading α}
    {r s : Reader} (hside : r.Beside s) (hf : r.tokens = [] → Fails (f none)) (hg : ∀ t, Forward (g (some t)))
    (h : ∀ (t u : Token) (r' s' : Reader), t.chars = u.chars → r'.Beside s' → r'.tokens.length < r.tokens.length →
      s'.tokens.length < s.tokens.length →
      Meet verbose (f (some t) r') (g (some u) s') ∨ P (f (some t) r') (g (some u) s')) :
    Meet verbose ((Reading.next >>= f) r) ((Reading.next >>= g) s) ∨
      P ((Reading.next >>= f) r) ((Reading.next >>= g) s) := by
  cases hside.nexts with
  | ended u hr hs hu hy =>
    obtain ⟨e, he⟩ := hf hr r
    rw [bind_of_ok (next_nil hr), bind_of_ok hy, he]
    refine Or.inl (.lost (stranded_error e) (fun a t ha v hv => ?_) fun _ => ⟨e, rfl⟩)
    exact absurd ((hg u _ a t ha).tokens.subset hv) List.not_mem_nil
  | both t u r' s' hr hs hchars hside' hlt hlt' hx hy =>
    rw [bind_of_ok hx, bind_of_ok hy]
    exact h t u r' s' hchars hside' hlt hlt'
  | dangling t u s' hr hs hchars hunclosed hx hy =>
    obtain ⟨e, he⟩ := hx
    rw [bind_of_error he, bind_of_ok hy]
    refine Or.inl (.lost (stranded_error e) (fun a t ha v hv => ?_) fun _ => ⟨e, rfl⟩)
    exact hunclosed v ((hg u _ a t ha).tokens.subset hv)

theorem Parallel.next_bind {f g : Option Token → Reading α} (hf : Fails (f none)) (hg : Fails (g none))
    (h : ∀ t u : Token, t.chars = u.chars → Parallel (n - 1) (m - 1) (f (some t)) (g (some u))) :
    Parallel n m (Reading.next >>= f) (Reading.next >>= g) where
  left := forward_next.bind (Option.rec hf.forward fun t => (h t t rfl).left)
  right := forward_next.bind (Option.rec hg.forward fun t => (h t t rfl).right)
  meet r s hside hn hm := by
    have hmeet : Meet false _ _ ∨ False := Meet.next_bind_or (P := fun _ _ => False) hside (fun _ => hf)
      (fun t => (h t t rfl).right)
      fun t u r' s' hchars hside' hlt hlt' => Or.inl ((h t u hchars).meet r' s' hside' (by omega) (by omega))
    exact hmeet.resolve_right id

theorem Token.isChar_congr {t u : Token} (h : t.chars = u.chars) (c : Char) : t.isChar c = u.isChar c := by
  rw [Token.isChar, Token.isChar, h]

theorem Token.isOneOf_congr {t u : Token} (h : t.chars = u.chars) (test : Char → Bool) :
    t.isOneOf test = u.isOneOf test := by
  rw [Token.isOneOf, Token.isOneOf, Token.char?, Token.char?, h]

theorem Token.isChar_eq_isOneOf (t : Token) (c : Char) : t.isChar c = t.isOneOf (· == c) := by
  obtain ⟨chars, position⟩ := t
  cases chars with
  | nil => rfl
  | cons d rest =>
    cases rest with
    | nil => simp [isChar, isOneOf, char?]
    | cons e more => simp [isChar, isOneOf, char?]

theorem peekIs_eq (test : Char → Bool) (r : Reader) :
    Reading.peekIs test r = .ok (r.tokens.head?.any (·.isOneOf test), r) := rfl

/-- Readers side by side see the same, unless the pattern ends. -/
theorem Reader.Beside.any_isOneOf_of_ne_nil {r s : Reader} (h : r.Beside s) (hne : r.tokens ≠ []) (test : Char → Bool) :
    r.tokens.head?.any (·.isOneOf test) = s.tokens.head?.any (·.isOneOf test) := by
  cases h.nexts with
  | ended u hr hs hu hy => exact absurd hr hne
  | both t u r' s' hr hs hchars hside hlt hlt' hx hy => simp only [hr, hs, Option.any_some, Token.isOneOf_congr hchars]
  | dangling t u s' hr hs hchars hunclosed hx hy => simp only [hr, hs, Option.any_some, Token.isOneOf_congr hchars]

/-- A test that a closing parenthesis does not pass says the same of readers side by side. -/
theorem Reader.Beside.any_isOneOf {r s : Reader} (h : r.Beside s) {test : Char → Bool} (htest : test ')' = false) :
    r.tokens.head?.any (·.isOneOf test) = s.tokens.head?.any (·.isOneOf test) := by
  by_cases hne : r.tokens = []
  · cases h.nexts with
    | ended u hr hs hu hy =>
      have hno : u.isOneOf test = false := by rw [Token.isOneOf, Token.char?, hu]; exact htest
      simp [hr, hs, hno]
    | both t u r' s' hr => simp [hne] at hr
    | dangling t u s' hr => simp [hne] at hr
  · exact h.any_isOneOf_of_ne_nil hne test

theorem forward_peekIs (test : Char → Bool) : Forward (Reading.peekIs test) := forward_get.bind fun _ => forward_pure _

theorem parallel_peekIs {test : Char → Bool} (htest : test ')' = false) :
    Parallel n m (Reading.peekIs test) (Reading.peekIs test) where
  left := forward_peekIs test
  right := forward_peekIs test
  meet r s hside _ _ := by
    rw [peekIs_eq, peekIs_eq, hside.any_isOneOf htest]
    exact .same _ r s hside rfl rfl

/-- A token is taken if it passes a test that a closing parenthesis does not pass. -/
theorem Parallel.takeIf {test : Char → Bool} (htest : test ')' = false) (cond : Bool → Bool)
    (hcond : cond false = false) {f g : Option Token → Reading α} {x y : Reading α} (hf : Forward (f none))
    (hg : Forward (g none))
    (hfg : ∀ t u : Token, t.chars = u.chars → Parallel (n - 1) (m - 1) (f (some t)) (g (some u)))
    (hxy : Parallel n m x y) :
    Parallel n m (Reading.peekIs test >>= fun b => if cond b = true then Reading.next >>= f else x)
      (Reading.peekIs test >>= fun b => if cond b = true then Reading.next >>= g else y) := by
  have hleft : ∀ t, Forward (f t) := Option.rec hf fun t => (hfg t t rfl).left
  have hright : ∀ t, Forward (g t) := Option.rec hg fun t => (hfg t t rfl).right
  have hite (z : Option Token → Reading α) (w : Reading α) (hz : ∀ t, Forward (z t)) (hw : Forward w) (b : Bool) :
      Forward (if cond b = true then Reading.next >>= z else w) := .ite (forward_next.bind hz) hw
  refine ⟨(forward_peekIs test).bind (hite f x hleft hxy.left), (forward_peekIs test).bind (hite g y hright hxy.right),
    fun r s hside hn hm => ?_⟩
  rw [bind_of_ok (peekIs_eq test r), bind_of_ok (peekIs_eq test s), hside.any_isOneOf htest]
  split
  case isFalse => exact hxy.meet r s hside hn hm
  case isTrue htaken =>
    cases hside.nexts with
    | ended u hr hs hu hy =>
      rw [← hside.any_isOneOf htest, hr, List.head?_nil, Option.any_none, hcond] at htaken
      cases htaken
    | both t u r' s' hr hs hchars hside' hlt hlt' hx hy =>
      rw [bind_of_ok hx, bind_of_ok hy]
      exact (hfg t u hchars).meet r' s' hside' (by omega) (by omega)
    | dangling t u s' hr hs hchars hunclosed hx hy =>
      obtain ⟨e, he⟩ := hx
      rw [bind_of_error he, bind_of_ok hy]
      refine .lost (stranded_error e) (fun a t ha v hv => ?_) fun _ => ⟨e, rfl⟩
      exact hunclosed v ((hright (some u) _ a t ha).tokens.subset hv)

theorem accept_eq (c : Char) : Reading.accept c =
    Reading.peekIs (· == c) >>= fun b => if b = true then Reading.next >>= fun _ => pure true else pure false := by
  funext r
  have hpeek : Reading.peek r = .ok (r.tokens.head?, r) := rfl
  rw [Reading.accept, bind_of_ok hpeek, bind_of_ok (peekIs_eq _ r)]
  cases r.tokens.head? with
  | none => rfl
  | some t => simp only [Option.any_some, Token.isChar_eq_isOneOf]

section
variable {c : Char} {r : Reader}

theorem accept_of_not (h : r.tokens.head?.any (·.isOneOf (· == c)) = false) : Reading.accept c r = .ok (false, r) := by
  rw [accept_eq, bind_of_ok (peekIs_eq _ r), h]
  rfl

theorem accept_of_next (h : r.tokens.head?.any (·.isOneOf (· == c)) = true) :
    Reading.accept c r = (Reading.next >>= fun _ => pure true) r := by
  rw [accept_eq, bind_of_ok (peekIs_eq _ r), h]
  rfl

end

theorem length_lt_of_accept {c : Char} {r s : Reader} (h : Reading.accept c r = .ok (true, s)) :
    s.tokens.length < r.tokens.length := by
  cases hany : r.tokens.head?.any (·.isOneOf (· == c)) with
  | false =>
    rw [accept_of_not hany] at h
    cases h
  | true =>
    rw [accept_of_next hany] at h
    obtain ⟨t, r', hnext, hpure⟩ := bind_eq_ok_iff.mp h
    cases hpure
    rcases next_eq_ok hnext with ⟨hnil, -⟩ | ⟨t, rest, htokens, rfl⟩
    · simp [hnil] at hany
    · simp [htokens]

theorem parallel_accept {c : Char} (hc : (')' == c) = false) : Parallel n m (Reading.accept c) (Reading.accept c) := by
  rw [accept_eq]
  exact .takeIf hc id rfl (forward_pure _) (forward_pure _) (fun _ _ _ => parallel_pure _) (parallel_pure _)

theorem parallel_takeWhile {test : Char → Bool} (htest : test ')' = false) (k : Nat) :
    Parallel n m (Reading.takeWhile test k) (Reading.takeWhile test k) := by
  induction k generalizing n m with
  | zero => exact parallel_pure _
  | succ k ih =>
    have hrest (t : Option Token) := (ih (n := n - 1) (m := m - 1)).bind fun rest =>
      parallel_pure ((t.map (·.chars)).getD [] ++ rest)
    refine .takeIf htest id rfl (hrest none).left (hrest none).right (fun t u hchars => ?_) (parallel_pure _)
    simp only [Option.map_some, hchars]
    exact hrest (some u)

theorem forward_takeUntil (terminator : Char) (what : String) (fuel : Nat) (taken : List Char) :
    Forward (Reading.takeUntil terminator what fuel taken) := by
  induction fuel generalizing taken with
  | zero => exact forward_pure _
  | succ fuel ih =>
    exact forward_next.bind (Option.rec (.ite (forward_fail _ _) (forward_fail _ _))
      fun t => .ite (.ite (forward_fail _ _) (forward_pure _)) (ih _))

theorem parallel_takeUntil (terminator : Char) (what : String) (n m : Nat) (taken : List Char) :
    Parallel n m (Reading.takeUntil terminator what n taken) (Reading.takeUntil terminator what m taken) := by
  induction n generalizing m taken with
  | zero => exact parallel_of_zero (forward_takeUntil _ _ _ _) (forward_takeUntil _ _ _ _) (Or.inl rfl)
  | succ n ih =>
    cases m with
    | zero => exact parallel_of_zero (forward_takeUntil _ _ _ _) (forward_takeUntil _ _ _ _) (Or.inr rfl)
    | succ m =>
      refine .next_bind (.ite (fails_fail _ _) (fails_fail _ _)) (.ite (fails_fail _ _) (fails_fail _ _))
        fun t u hchars => ?_
      dsimp only
      rw [Token.isChar_congr hchars, hchars]
      exact .ite (.ite (parallel_fail _ _ _ _) (parallel_pure taken)) (ih m _)

/-- The number of tokens that are left bounds a loop that takes one in each round. -/
theorem Parallel.fueled {x y : Nat → Reading α} (h : ∀ n m, Parallel n m (x n) (y m)) :
    Parallel n m (do x ((← get).tokens.length + 1)) (do y ((← get).tokens.length + 1)) where
  left := forward_get.bind fun _ => (h _ 0).left
  right := forward_get.bind fun _ => (h 0 _).right
  meet r s hside _ _ := (h _ _).meet r s hside (Nat.lt_succ_self _) (Nat.lt_succ_self _)

theorem parallel_takeName (terminator : Char) (what : String) :
    Parallel n m (Reading.takeName terminator what) (Reading.takeName terminator what) :=
  .fueled fun n m => parallel_takeUntil terminator what n m []

theorem parallel_checkName (name : List Char) : Parallel n m (Reading.checkName name) (Reading.checkName name) :=
  .ite (parallel_pure ()) (parallel_fail _ _ _ _)

end

end StateMachine.Pattern
