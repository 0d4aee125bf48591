import StateMachine.Proofs.Accompanying

/-!
# Escapes, sets and repetitions side by side

What stands for single characters, and how often, is read alone as before a closing parenthesis.
-/

namespace StateMachine.Pattern

open Reading

/-! ## Escapes -/

variable {n m : Nat}

theorem parallel_checkReference (index : Nat) : Parallel n m (checkReference index) (checkReference index) := by
  refine .get_bind fun r s h => ?_
  rw [Reader.isClosed, Reader.isClosed, h.innerGroups, h.closed]
  split
  · exact parallel_pure ()
  · exact .ite (parallel_fail _ _ _ _) (.ite (parallel_fail _ _ _ _) (parallel_pure ()))

theorem parallel_failEscape {α : Type} (what : String) (escape : List Char) (suffix : String) :
    Parallel n m (failEscape what escape suffix : Reading α) (failEscape what escape suffix) := parallel_fail _ _ _ _

theorem parallel_hexCode (c : Char) (width : Nat) : Parallel n m (hexCode c width) (hexCode c width) :=
  (parallel_takeWhile rfl width).bind fun _ => .ite (parallel_failEscape _ _ _)
    (.ite (parallel_pure _) (parallel_failEscape _ _ _))

theorem parallel_namedCode : Parallel n m namedCode namedCode := by
  refine (parallel_accept rfl).bind fun _ => .ite ((parallel_takeName _ _).bind fun name => ?_) (parallel_fail _ _ _ _)
  refine .ite (parallel_failEscape _ _ _) ?_
  split
  · exact parallel_pure _
  · exact parallel_fail _ _ _ _

theorem parallel_octalCode (digits : List Char) : Parallel n m (octalCode digits) (octalCode digits) :=
  .ite (parallel_failEscape _ _ _) (parallel_pure _)

theorem parallel_literalEscape (c : Char) : Parallel n m (literalEscape c) (literalEscape c) :=
  .ite (parallel_failEscape _ _ _) (parallel_pure _)

theorem parallel_numericEscape? (c : Char) : ∀ read ∈ numericEscape? c, Parallel n m read read := by
  intro read hread
  unfold numericEscape? at hread
  split at hread
  · obtain rfl := Option.some.inj hread
    exact parallel_hexCode _ _
  · obtain rfl := Option.some.inj hread
    exact parallel_hexCode _ _
  · obtain rfl := Option.some.inj hread
    exact parallel_hexCode _ _
  · obtain rfl := Option.some.inj hread
    exact parallel_namedCode
  · cases hread

theorem parallel_setEscape (c : Char) : Parallel n m (setEscape c) (setEscape c) := by
  unfold setEscape
  split
  case h_1 => exact parallel_pure _
  case h_2 => exact parallel_pure _
  case h_3 read _ _ hread => exact (parallel_numericEscape? c read hread).bind fun _ => parallel_pure _
  case h_4 =>
    exact .ite ((parallel_takeWhile rfl 2).bind fun _ => (parallel_octalCode _).bind fun _ => parallel_pure _)
      ((parallel_literalEscape c).bind fun _ => parallel_pure _)

theorem parallel_numericReference (digits : List Char) :
    Parallel n m (numericReference digits) (numericReference digits) := by
  refine .get_bind fun r s h => ?_
  rw [Reader.isClosed, Reader.isClosed, h.groups, h.closed]
  exact .ite (.ite (parallel_fail _ _ _ _) ((parallel_checkReference _).bind fun _ => parallel_pure _))
    (parallel_fail _ _ _ _)

theorem Token.char?_congr {t u : Token} (h : t.chars = u.chars) : t.char? = u.char? := by
  rw [Token.char?, Token.char?, h]

theorem parallel_digitEscape (c : Char) : Parallel n m (digitEscape c) (digitEscape c) := by
  let third (second : Char) (t : Option Token) : Reading Node := do
    return .code false (← octalCode [c, second, (t.bind Token.char?).getD '0'])
  have hthird {n m : Nat} (second : Char) (t : Option Token) : Parallel n m (third second t) (third second t) :=
    (parallel_octalCode _).bind fun _ => parallel_pure _
  have hsecond {n m : Nat} (second : Char) := Parallel.takeIf (n := n) (m := m) (f := third second) (g := third second)
    (show isOctalDigit ')' = false from rfl) (fun b => isOctalDigit c && isOctalDigit second && b) (Bool.and_false _)
    (hthird (n := n) (m := m) second none).left (hthird (n := n) (m := m) second none).left
    (fun t u hchars => by
      have hsame : third second (some t) = third second (some u) := by
        simp only [third, Option.bind_some, Token.char?_congr hchars]
      rw [hsame]
      exact hthird second (some u))
    (parallel_numericReference [c, second])
  have hfirst {n m : Nat} (t : Option Token) := hsecond (n := n) (m := m) ((t.bind Token.char?).getD '0')
  refine .takeIf rfl id rfl (hfirst (n := n) (m := m) none).left (hfirst (n := n) (m := m) none).left
    (fun t u hchars => ?_) (parallel_numericReference [c])
  simp only [Option.bind_some, Token.char?_congr hchars]
  exact hfirst (some u)

theorem parallel_escape (c : Char) : Parallel n m (escape c) (escape c) := by
  unfold escape
  split
  case h_1 => exact parallel_pure _
  case h_2 => exact parallel_pure _
  case h_3 =>
    split
    case h_1 => exact parallel_pure _
    case h_2 read _ hread => exact (parallel_numericEscape? c read hread).bind fun _ => parallel_pure _
    case h_3 =>
      exact .ite ((parallel_takeWhile rfl 2).bind fun _ => parallel_pure _)
        (.ite (parallel_digitEscape c) ((parallel_literalEscape c).bind fun _ => parallel_pure _))

/-! ## Sets of characters -/

theorem parallel_setItem {t u : Token} (h : t.chars = u.chars) : Parallel n m (setItem t) (setItem u) := by
  unfold setItem
  rw [h]
  split
  · exact parallel_setEscape _
  · exact parallel_pure _
  · exact parallel_pure _

theorem parallel_setRange {t u t' u' : Token} (first last : SetItem) :
    Parallel n m (setRange t u first last) (setRange t' u' first last) := by
  unfold setRange
  dsimp only
  split
  · exact .ite (parallel_fail _ _ _ _) (parallel_pure _)
  · exact parallel_fail _ _ _ _

theorem forward_setItem (t : Token) : Forward (setItem t) := (parallel_setItem (n := 0) (m := 0) (Eq.refl t.chars)).left

theorem forward_setRange (t u : Token) (first last : SetItem) : Forward (setRange t u first last) := by
  have hboth : Parallel 0 0 (setRange t u first last) (setRange t u first last) := parallel_setRange first last
  exact hboth.left

theorem forward_accept (c : Char) : Forward (Reading.accept c) := by
  rw [accept_eq]
  exact (forward_peekIs _).bind fun _ => .ite (forward_next.bind fun _ => forward_pure _) (forward_pure _)

theorem forward_setItems (start fuel : Nat) (items : List SetItem) : Forward (setItems start fuel items) := by
  induction fuel generalizing items with
  | zero => exact forward_pure _
  | succ fuel ih =>
    refine forward_next.bind (Option.rec (fails_failFrom _ start).forward fun t => .ite (forward_pure _) ?_)
    refine (forward_setItem t).bind fun item => (forward_accept '-').bind fun _ => .ite ?_ (ih _)
    refine forward_next.bind (Option.rec (fails_failFrom _ start).forward fun u => .ite (forward_pure _) ?_)
    exact (forward_setItem u).bind fun last => (forward_setRange _ _ _ _).bind fun range => ih _

theorem parallel_setItems (start start' n m : Nat) (items : List SetItem) :
    Parallel n m (setItems start n items) (setItems start' m items) := by
  induction n generalizing m items with
  | zero => exact parallel_of_zero (forward_setItems _ _ _) (forward_setItems _ _ _) (Or.inl rfl)
  | succ n ih =>
    cases m with
    | zero => exact parallel_of_zero (forward_setItems _ _ _) (forward_setItems _ _ _) (Or.inr rfl)
    | succ m =>
      refine .next_bind (fails_failFrom _ start) (fails_failFrom _ start') fun t u hchars => ?_
      dsimp only
      rw [Token.isChar_congr hchars]
      refine .ite (parallel_pure _) ((parallel_setItem hchars).bind fun item => ?_)
      refine (parallel_accept rfl).bind fun _ => .ite ?_ (ih m _)
      refine .next_bind (fails_failFrom _ start) (fails_failFrom _ start') fun t' u' hchars' => ?_
      dsimp only
      rw [Token.isChar_congr hchars']
      refine .ite (parallel_pure _) ((parallel_setItem hchars').bind fun last => ?_)
      exact (parallel_setRange _ _).bind fun range => (ih m _).mono (Nat.sub_le n 1) (Nat.sub_le m 1)

theorem parallel_charSet : Parallel n m charSet charSet := by
  refine .tell_bind fun i j => (parallel_accept rfl).bind fun negated => ?_
  exact .fueled (x := fun k => do return Node.ofSet negated (← setItems (i - 1) k []))
    (y := fun k => do return Node.ofSet negated (← setItems (j - 1) k []))
    fun n m => (parallel_setItems _ _ n m []).bind fun _ => parallel_pure _

/-! ## Repetition -/

/-- The digits of bounds in braces, and whether the closing brace follows. -/
def braceDigits (fuel : Nat) : Reading (List Char × List Char × Bool) := do
  let low ← takeWhile Char.isDigit fuel
  let high ← if ← accept ',' then takeWhile Char.isDigit fuel else pure low
  return (low, high, ← accept '\x7d')

/-- The bounds that stand in braces, in ascending order. -/
def checkBounds (here : Nat) (low high : List Char) : Reading (Option (Nat × Option Nat)) := do
  let least ← boundValue low
  let most ← upperValue high
  if most.any (· < least) then fail "min repeat greater than max repeat" ((← tell) - here)
  else return some (least, most)

/-- Bounds after an opening brace. Without a closing brace, nothing is taken. -/
def boundsOrNothing : Reading (Option (Nat × Option Nat)) := do
  let saved ← get
  let here ← tell
  let (low, high, closed) ← braceDigits saved.tokens.length
  if closed then checkBounds here low high
  else
    set saved
    return none

theorem braceBounds_eq : braceBounds = (do
    if ← peekIs (· == '\x7d') then return none
    else boundsOrNothing) := by
  unfold braceBounds boundsOrNothing braceDigits
  simp only [bind_assoc, pure_bind]
  refine bind_congr fun b => ite_congr rfl (fun _ => rfl) fun _ => bind_congr fun saved => bind_congr fun here => ?_
  refine bind_congr fun low => bind_congr fun comma => ?_
  cases comma with
  | false =>
    simp only [Bool.false_eq_true, if_false, bind_assoc, pure_bind]
    rfl
  | true =>
    simp only [if_true, bind_assoc, pure_bind]
    rfl

theorem forward_takeWhile (test : Char → Bool) (fuel : Nat) : Forward (takeWhile test fuel) := by
  induction fuel with
  | zero => exact forward_pure _
  | succ fuel ih =>
    exact (forward_peekIs test).bind fun _ => .ite (forward_next.bind fun _ => ih.bind fun _ => forward_pure _)
      (forward_pure _)

/-- All tokens that a test accepts are taken, if the bound is large enough. -/
theorem parallel_takeAll {test : Char → Bool} (htest : test ')' = false) (n m : Nat) :
    Parallel (n + 1) (m + 1) (takeWhile test n) (takeWhile test m) := by
  induction n generalizing m with
  | zero =>
    refine ⟨forward_takeWhile test 0, forward_takeWhile test m, fun r s hside hn hm => ?_⟩
    have hr : r.tokens = [] := List.length_eq_zero_iff.mp (by omega)
    have hno : s.tokens.head?.any (·.isOneOf test) = false := by
      rw [← hside.any_isOneOf htest, hr]
      rfl
    refine .same [] r s hside rfl ?_
    cases m with
    | zero => rfl
    | succ m =>
      rw [takeWhile, bind_of_ok (peekIs_eq test s), hno]
      rfl
  | succ n ih =>
    cases m with
    | zero =>
      refine ⟨forward_takeWhile test (n + 1), forward_takeWhile test 0, fun r s hside hn hm => ?_⟩
      cases hside.nexts <;> simp_all
    | succ m =>
      have hrest (t : Option Token) := (ih m).bind fun rest => parallel_pure ((t.map (·.chars)).getD [] ++ rest)
      refine .takeIf htest id rfl (hrest none).left (hrest none).right (fun t u hchars => ?_) (parallel_pure _)
      simp only [Option.map_some, hchars]
      exact hrest (some u)

theorem forward_braceDigits (fuel : Nat) : Forward (braceDigits fuel) := by
  have hrest (low high : List Char) : Forward (do return (low, high, ← accept '\x7d') : Reading _) :=
    (forward_accept _).bind fun _ => forward_pure _
  exact (forward_takeWhile _ _).bind fun low => (forward_accept _).bind fun _ =>
    .ite ((forward_takeWhile _ _).bind (hrest low)) ((forward_pure low).bind (hrest low))

theorem parallel_braceDigits (n m : Nat) : Parallel (n + 1) (m + 1) (braceDigits n) (braceDigits m) := by
  have hdigits := parallel_takeAll (show Char.isDigit ')' = false from rfl) n m
  have hrest (low high : List Char) : Parallel (n + 1) (m + 1) (do return (low, high, ← accept '\x7d') : Reading _)
      (do return (low, high, ← accept '\x7d')) := (parallel_accept rfl).bind fun _ => parallel_pure _
  exact hdigits.bind fun low => (parallel_accept rfl).bind fun _ =>
    .ite (hdigits.bind (hrest low)) ((parallel_pure low).bind (hrest low))

/-- A step that takes no closing parenthesis. -/
def Spares {α : Type} (x : Reading α) : Prop := ∀ r a s, x r = .ok (a, s) → s.Unclosed → r.Unclosed

theorem spares_pure {α : Type} (a : α) : Spares (pure a : Reading α) := by
  intro r b s h
  cases h
  exact id

theorem Spares.bind {α β : Type} {x : Reading α} {f : α → Reading β} (hx : Spares x) (hf : ∀ a, Spares (f a)) :
    Spares (x >>= f) := by
  intro r b s h hs
  obtain ⟨a, t, ha, hb⟩ := bind_eq_ok_iff.mp h
  exact hx r a t ha (hf a t b s hb hs)

theorem Spares.takeIf {α : Type} {test : Char → Bool} (htest : test ')' = false) {f : Option Token → Reading α}
    {x : Reading α} (hf : ∀ t, Spares (f t)) (hx : Spares x) :
    Spares (peekIs test >>= fun b => if b = true then next >>= f else x) := by
  intro r a s h hs
  rw [bind_of_ok (peekIs_eq test r)] at h
  split at h
  case isFalse => exact hx r a s h hs
  case isTrue htaken =>
    obtain ⟨t, r', ht, hrest⟩ := bind_eq_ok_iff.mp h
    have hr' := hf t r' a s hrest hs
    rcases next_eq_ok ht with ⟨-, rfl⟩ | ⟨t, rest, htokens, rfl⟩
    · exact hr'
    · have hno : t.isChar ')' = false := by
        rw [htokens, List.head?_cons, Option.any_some] at htaken
        rw [← Bool.not_eq_true]
        intro hclose
        rw [Token.isChar, beq_iff_eq] at hclose
        rw [Token.isOneOf, Token.char?, hclose] at htaken
        exact absurd htaken (by simp [htest])
      intro u hu
      rw [htokens] at hu
      rcases List.mem_cons.mp hu with rfl | hu
      · exact hno
      · exact hr' u hu

theorem spares_takeWhile {test : Char → Bool} (htest : test ')' = false) (fuel : Nat) :
    Spares (takeWhile test fuel) := by
  induction fuel with
  | zero => exact spares_pure _
  | succ fuel ih => exact .takeIf htest (fun _ => ih.bind fun _ => spares_pure _) (spares_pure _)

theorem spares_accept {c : Char} (hc : (')' == c) = false) : Spares (accept c) := by
  rw [accept_eq]
  exact .takeIf hc (fun _ => spares_pure _) (spares_pure _)

theorem spares_braceDigits (fuel : Nat) : Spares (braceDigits fuel) := by
  have hdigits := spares_takeWhile (show Char.isDigit ')' = false from rfl) fuel
  have hrest (low high : List Char) : Spares (do return (low, high, ← accept '\x7d') : Reading _) :=
    (spares_accept rfl).bind fun _ => spares_pure _
  refine hdigits.bind fun low => (spares_accept rfl).bind fun comma => ?_
  split
  · exact hdigits.bind (hrest low)
  · exact (spares_pure low).bind (hrest low)

theorem parallel_boundValue (digits : List Char) : Parallel n m (boundValue digits) (boundValue digits) :=
  .ite (parallel_throw _) (.ite (parallel_throw _) (parallel_pure _))

theorem parallel_upperValue (digits : List Char) : Parallel n m (upperValue digits) (upperValue digits) :=
  .ite (parallel_pure none) ((parallel_boundValue digits).bind fun _ => parallel_pure _)

theorem parallel_checkBounds (here here' : Nat) (low high : List Char) :
    Parallel n m (checkBounds here low high) (checkBounds here' low high) :=
  (parallel_boundValue low).bind fun _ => (parallel_upperValue high).bind fun _ =>
    .ite (parallel_of_fails (fails_failFrom _ here) (fails_failFrom _ here')) (parallel_pure _)

theorem boundsOrNothing_apply (r : Reader) : boundsOrNothing r = (do
    let found ← braceDigits r.tokens.length
    if found.2.2 then checkBounds ((r.tokens.head?.map (·.position)).getD r.size) found.1 found.2.1
    else
      set r
      return none : Reading _) r := rfl

theorem forward_checkBounds (here : Nat) (low high : List Char) : Forward (checkBounds here low high) :=
  (parallel_checkBounds (n := 0) (m := 0) here here low high).left

/-- Bounds are found after their digits, or the reader is put back. -/
theorem boundsOrNothing_eq_ok {r s : Reader} {a : Option (Nat × Option Nat)} (h : boundsOrNothing r = .ok (a, s)) :
    ∃ found t, braceDigits r.tokens.length r = .ok (found, t) ∧ (t.Reaches s ∨ s = r) := by
  rw [boundsOrNothing_apply] at h
  obtain ⟨found, t, hfound, hrest⟩ := bind_eq_ok_iff.mp h
  refine ⟨found, t, hfound, ?_⟩
  split at hrest
  · exact Or.inl (forward_checkBounds _ _ _ t a s hrest)
  · cases hrest
    exact Or.inr rfl

theorem forward_boundsOrNothing : Forward boundsOrNothing := by
  intro r a s h
  obtain ⟨found, t, hfound, hreaches | rfl⟩ := boundsOrNothing_eq_ok h
  · exact (forward_braceDigits _ r found t hfound).trans hreaches
  · exact .refl s

theorem parallel_boundsOrNothing : Parallel n m boundsOrNothing boundsOrNothing := by
  refine ⟨forward_boundsOrNothing, forward_boundsOrNothing, fun r s hside _ _ => ?_⟩
  cases (parallel_braceDigits _ _).meet r s hside (Nat.lt_succ_self _) (Nat.lt_succ_self _) with
  | same found t u hside' hx hy =>
    rw [boundsOrNothing_apply, boundsOrNothing_apply, bind_of_ok hx, bind_of_ok hy]
    split
    · exact (parallel_checkBounds _ _ _ _).meet t u hside' (Nat.lt_succ_self _) (Nat.lt_succ_self _)
    · exact .same none r s hside rfl rfl
  | lost hx hy hfail =>
    obtain ⟨e, he⟩ := hfail rfl
    rw [boundsOrNothing_apply, bind_of_error he]
    refine .lost (stranded_error e) (fun a v hv => ?_) fun _ => ⟨e, rfl⟩
    -- What was taken before the end of the pattern are digits and commas.
    obtain ⟨found, t, hfound, hreaches | rfl⟩ := boundsOrNothing_eq_ok hv
    · exact fun w hw => hy found t hfound w (hreaches.tokens.subset hw)
    · exact spares_braceDigits _ _ found t hfound (hy found t hfound)

theorem parallel_braceBounds : Parallel n m braceBounds braceBounds := by
  rw [braceBounds_eq]
  exact (parallel_peekIs rfl).bind fun _ => .ite (parallel_pure _) parallel_boundsOrNothing

theorem parallel_repeatBounds (c : Char) : Parallel n m (repeatBounds c) (repeatBounds c) := by
  unfold repeatBounds
  split
  · exact parallel_pure _
  · exact parallel_pure _
  · exact parallel_pure _
  · exact parallel_braceBounds

theorem parallel_repeatGreed : Parallel n m repeatGreed repeatGreed :=
  (parallel_accept rfl).bind fun _ => .ite (parallel_pure _)
    ((parallel_accept rfl).bind fun _ => .ite (parallel_pure _) (parallel_pure _))

theorem parallel_repeatLast (start start' least : Nat) (most : Option Nat) (items : List Node) :
    Parallel n m (repeatLast start least most items) (repeatLast start' least most items) := by
  have hfail (message : String) : Parallel n m
      (do Reading.fail message ((← Reading.tell) - start) : Reading (List Node))
      (do Reading.fail message ((← Reading.tell) - start')) :=
    parallel_of_fails (fails_failFrom _ start) (fails_failFrom _ start')
  unfold repeatLast
  dsimp only
  split
  · exact hfail _
  · exact .ite (hfail _) (.ite (hfail _) (parallel_repeatGreed.bind fun _ => parallel_pure _))

end StateMachine.Pattern
