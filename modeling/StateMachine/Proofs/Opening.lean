import StateMachine.Proofs.Escaping

/-!
# Openings side by side

Groups begin alone as before a closing parenthesis, but for flags that are set for the whole pattern.
-/

namespace StateMachine.Pattern

open Reading

variable {n m : Nat}

/-! ## Flags -/

theorem fails_failFlag {α : Type} (t : Token) (expected : String) : Fails (failFlag t expected : Reading α) :=
  fun _ => ⟨_, rfl⟩

theorem forward_flagsOn (fuel : Nat) (flag : Flag) (on : List Flag) : Forward (flagsOn fuel flag on) := by
  induction fuel generalizing flag on with
  | zero => exact forward_pure _
  | succ fuel ih =>
    refine .ite (forward_fail _ _) (.ite (forward_fail _ _) ?_)
    refine forward_next.bind (Option.rec (forward_fail _ _) fun t => ?_)
    dsimp only
    split
    · exact forward_pure _
    · exact forward_pure _
    · exact forward_pure _
    · split
      · exact ih _ _
      · exact (fails_failFlag t _).forward

theorem parallel_flagsOn (n m : Nat) (flag : Flag) (on : List Flag) :
    Parallel n m (flagsOn n flag on) (flagsOn m flag on) := by
  induction n generalizing m flag on with
  | zero => exact parallel_of_zero (forward_flagsOn _ _ _) (forward_flagsOn _ _ _) (Or.inl rfl)
  | succ n ih =>
    cases m with
    | zero => exact parallel_of_zero (forward_flagsOn _ _ _) (forward_flagsOn _ _ _) (Or.inr rfl)
    | succ m =>
      refine .ite (parallel_fail _ _ _ _) (.ite (parallel_fail _ _ _ _) ?_)
      refine .next_bind (fails_fail _ _) (fails_fail _ _) fun t u hchars => ?_
      dsimp only
      rw [Token.char?_congr hchars]
      split
      · exact parallel_pure _
      · exact parallel_pure _
      · exact parallel_pure _
      · split
        · exact ih m _ _
        · exact parallel_of_fails (fails_failFlag t _) (fails_failFlag u _)

/-- What a step comes to has a property. -/
def Gives {α : Type} (P : α → Reader → Prop) (x : Reading α) : Prop := ∀ r a s, x r = .ok (a, s) → P a s

theorem gives_pure {α : Type} {P : α → Reader → Prop} {a : α} (h : ∀ s, P a s) : Gives P (pure a) := by
  intro r b s heq
  cases heq
  exact h r

theorem gives_fail {α : Type} (P : α → Reader → Prop) (message : String) (offset : Nat) :
    Gives P (fail message offset : Reading α) := by
  intro r a s h
  cases h

theorem Gives.bind {α β : Type} {P : β → Reader → Prop} {x : Reading α} {f : α → Reading β} (h : ∀ a, Gives P (f a)) :
    Gives P (x >>= f) := by
  intro r b s heq
  obtain ⟨a, t, -, hb⟩ := bind_eq_ok_iff.mp heq
  exact h a t b s hb

theorem Gives.ite {α : Type} {P : α → Reader → Prop} {c : Prop} [Decidable c] {x y : Reading α} (hx : Gives P x)
    (hy : Gives P y) : Gives P (if c then x else y) := by
  split
  · exact hx
  · exact hy

/-- Flags are read one by one, and none is forgotten. -/
theorem gives_flagsOn_succ {fuel : Nat}
    (h : ∀ flag on, Gives (fun read _ => on <+: read.1) (flagsOn fuel flag on)) (flag : Flag) (on : List Flag) :
    Gives (fun read _ => on ++ [flag] <+: read.1) (flagsOn (fuel + 1) flag on) := by
  refine .ite (gives_fail _ _ _) (.ite (gives_fail _ _ _) (.bind (Option.rec (gives_fail _ _ _) fun t => ?_)))
  dsimp only
  split
  · exact gives_pure fun _ => List.prefix_rfl
  · exact gives_pure fun _ => List.prefix_rfl
  · exact gives_pure fun _ => List.prefix_rfl
  · split
    · exact h _ _
    · exact gives_fail _ _ _

theorem gives_flagsOn (fuel : Nat) (flag : Flag) (on : List Flag) :
    Gives (fun read _ => on <+: read.1) (flagsOn fuel flag on) := by
  induction fuel generalizing flag on with
  | zero => exact gives_pure fun _ => List.prefix_rfl
  | succ fuel ih =>
    exact fun r read s h => (List.prefix_append on [flag]).trans (gives_flagsOn_succ ih flag on r read s h)

theorem flagsOn_ne_nil {fuel : Nat} {flag : Flag} {on : List Flag} {r s : Reader} {read : List Flag × Char}
    (h : flagsOn (fuel + 1) flag on r = .ok (read, s)) : read.1 ≠ [] := by
  have hread : on ++ [flag] <+: read.1 := gives_flagsOn_succ (gives_flagsOn fuel) flag on r read s h
  intro hnil
  rw [hnil] at hread
  simp at hread

theorem forward_flagsOff (fuel : Nat) (flag : Flag) (off : List Flag) : Forward (flagsOff fuel flag off) := by
  induction fuel generalizing flag off with
  | zero => exact forward_pure _
  | succ fuel ih =>
    refine .ite (forward_fail _ _) (forward_next.bind (Option.rec (forward_fail _ _) fun t => ?_))
    dsimp only
    split
    · exact forward_pure _
    · split
      · exact ih _ _
      · exact (fails_failFlag t _).forward

theorem parallel_flagsOff (n m : Nat) (flag : Flag) (off : List Flag) :
    Parallel n m (flagsOff n flag off) (flagsOff m flag off) := by
  induction n generalizing m flag off with
  | zero => exact parallel_of_zero (forward_flagsOff _ _ _) (forward_flagsOff _ _ _) (Or.inl rfl)
  | succ n ih =>
    cases m with
    | zero => exact parallel_of_zero (forward_flagsOff _ _ _) (forward_flagsOff _ _ _) (Or.inr rfl)
    | succ m =>
      refine .ite (parallel_fail _ _ _ _) (.next_bind (fails_fail _ _) (fails_fail _ _) fun t u hchars => ?_)
      dsimp only
      rw [Token.char?_congr hchars]
      split
      · exact parallel_pure _
      · split
        · exact ih m _ _
        · exact parallel_of_fails (fails_failFlag t _) (fails_failFlag u _)

/-- The flags of a group after those to be switched on. -/
def flagsAfter (fuel : Nat) (on : List Flag) (stop : Char) : Reading (Option (List Flag × List Flag)) := do
  if on.contains .template then
    fail "bad inline flags: cannot turn on global flag" 1
  else
    let off ←
      if stop == '-' then
        match ← next with
        | none => fail "missing flag"
        | some t =>
          match t.char?.bind Flag.ofChar? with
          | some flag => flagsOff fuel flag []
          | none => failFlag t "flag"
      else pure []
    if off.contains .template then fail "bad inline flags: cannot turn off global flag" 1
    else if on.any off.contains then fail "bad inline flags: flag turned on and off" 1
    else return some (on, off)

/-- The flags to be switched on, from the first character on. -/
def flagsBefore (fuel : Nat) : Option Flag → Reading (List Flag × Char)
  | some flag => flagsOn fuel flag []
  | none => pure ([], '-')

theorem parallel_flagsAfter (n m : Nat) (on : List Flag) (stop : Char) :
    Parallel n m (flagsAfter n on stop) (flagsAfter m on stop) := by
  unfold flagsAfter
  dsimp only
  generalize hk : (fun off => _ : List Flag → Reading (Option (List Flag × List Flag))) = finish
  have hfinish {n m : Nat} (off : List Flag) : Parallel n m (finish off) (finish off) := by
    subst hk
    exact .ite (parallel_fail _ _ _ _) (.ite (parallel_fail _ _ _ _) (parallel_pure _))
  refine .ite (parallel_fail _ _ _ _) (.ite ?_ ((parallel_pure []).bind hfinish))
  refine .next_bind (fails_fail _ _).bind (fails_fail _ _).bind fun t u hchars => ?_
  dsimp only
  rw [Token.char?_congr hchars]
  split
  · exact ((parallel_flagsOff n m _ []).mono (Nat.sub_le n 1) (Nat.sub_le m 1)).bind hfinish
  · exact parallel_of_fails (fails_failFlag t _).bind (fails_failFlag u _).bind

/-- A reading that sets flags for the whole pattern, and says so by what it comes to. -/
def SetsFlags {α : Type} (P : α → Prop) (x : Result α) : Prop := ∀ a s, x = .ok (a, s) → P a ∧ s.flags ≠ []

theorem forward_flagsBefore (fuel : Nat) (first : Option Flag) : Forward (flagsBefore fuel first) := by
  cases first with
  | none => exact forward_pure _
  | some flag => exact forward_flagsOn _ _ _

theorem parallel_flagsBefore (n m : Nat) (first : Option Flag) :
    Parallel n m (flagsBefore n first) (flagsBefore m first) := by
  cases first with
  | none => exact parallel_pure _
  | some flag => exact parallel_flagsOn n m flag []

/-- Only flags may end a group at its opening. -/
theorem ne_nil_of_flagsBefore {fuel : Nat} {first : Option Flag} {r s : Reader} {read : List Flag × Char}
    (h : flagsBefore (fuel + 1) first r = .ok (read, s)) (hstop : (read.2 == ')') = true) : read.1 ≠ [] := by
  cases first with
  | none =>
    cases h
    cases hstop
  | some flag => exact flagsOn_ne_nil h

/-- What follows the flags to be switched on. -/
def flagsEnd (fuel : Nat) (read : List Flag × Char) : Reading (Option (List Flag × List Flag)) :=
  if read.2 == ')' then do
    modify fun r => { r with flags := r.flags ++ read.1 }
    return none
  else flagsAfter fuel read.1 read.2

theorem forward_flagsEnd (fuel : Nat) (read : List Flag × Char) : Forward (flagsEnd fuel read) := by
  refine .ite ((forward_modify fun r => ?_).bind fun _ => forward_pure none) (parallel_flagsAfter fuel 0 _ _).left
  exact ⟨List.suffix_rfl, List.prefix_append _ _⟩

theorem setsFlags_flagsEnd (fuel : Nat) {read : List Flag × Char} (hread : read.1 ≠ []) (hstop : (read.2 == ')') = true)
    (r : Reader) : SetsFlags (· = none) (flagsEnd fuel read r) := by
  intro a s h
  rw [flagsEnd, if_pos hstop] at h
  cases h
  exact ⟨rfl, by simp [hread]⟩

theorem groupFlags_apply (first : Option Flag) (r : Reader) : groupFlags first r =
    (flagsBefore (r.tokens.length + 1) first >>= flagsEnd (r.tokens.length + 1)) r := by
  unfold groupFlags flagsEnd flagsAfter
  cases first with
  | none => rfl
  | some flag => rfl

theorem forward_groupFlags (first : Option Flag) : Forward (groupFlags first) := by
  intro r a s h
  rw [groupFlags_apply] at h
  exact (forward_flagsBefore _ first).bind (forward_flagsEnd _) r a s h

theorem meet_groupFlags (first : Option Flag) {r s : Reader} (hside : r.Beside s) :
    Meet false (groupFlags first r) (groupFlags first s) ∨
      SetsFlags (· = none) (groupFlags first r) ∧ SetsFlags (· = none) (groupFlags first s) := by
  rw [groupFlags_apply, groupFlags_apply]
  cases (parallel_flagsBefore _ _ first).meet r s hside (Nat.lt_succ_self _) (Nat.lt_succ_self _) with
  | same read t u hside' hx hy =>
    rw [bind_of_ok hx, bind_of_ok hy]
    cases hstop : read.2 == ')' with
    | true =>
      have hread := ne_nil_of_flagsBefore hx hstop
      exact Or.inr ⟨setsFlags_flagsEnd _ hread hstop t, setsFlags_flagsEnd _ hread hstop u⟩
    | false =>
      left
      rw [flagsEnd, flagsEnd, if_neg (by simp [hstop]), if_neg (by simp [hstop])]
      exact (parallel_flagsAfter _ _ _ _).meet t u hside'
        (Nat.lt_succ_of_le (forward_flagsBefore _ first r read t hx).length_le)
        (Nat.lt_succ_of_le (forward_flagsBefore _ first s read u hy).length_le)
  | lost hx hy hfail =>
    obtain ⟨e, he⟩ := hfail rfl
    left
    rw [bind_of_error he]
    exact .lost (stranded_error e) (hy.bind (forward_flagsEnd _)) fun _ => ⟨e, rfl⟩

/-! ## Comments and openings -/

theorem forward_skipLine (fuel : Nat) : Forward (skipLine fuel) := by
  induction fuel with
  | zero => exact forward_pure _
  | succ fuel ih => exact forward_next.bind (Option.rec (forward_pure _) fun t => .ite (forward_pure _) ih)

/-- A comment up to the end of its line may hide a closing parenthesis. -/
theorem meet_skipLine {n m : Nat} {r s : Reader} (hside : r.Beside s) (hn : r.tokens.length < n)
    (hm : s.tokens.length < m) : Meet true (skipLine n r) (skipLine m s) := by
  induction n generalizing m r s with
  | zero => omega
  | succ n ih =>
    obtain ⟨m, rfl⟩ := Nat.exists_eq_succ_of_ne_zero (Nat.ne_zero_of_lt hm)
    have hrest (u : Token) : Forward (if u.isChar '\n' = true then pure () else skipLine m) :=
      .ite (forward_pure _) (forward_skipLine m)
    rw [skipLine, skipLine]
    cases hside.nexts with
    | ended u hr hs hu hy =>
      rw [bind_of_ok (next_nil hr), bind_of_ok hy]
      refine .lost ?_ (fun a v hv w hw => ?_) fun h => nomatch h
      · intro a v hv w hw
        cases hv
        rw [hr] at hw
        cases hw
      · exact absurd ((hrest u _ a v hv).tokens.subset hw) List.not_mem_nil
    | both t u r' s' hr hs hchars hside' hlt hlt' hx hy =>
      rw [bind_of_ok hx, bind_of_ok hy]
      dsimp only
      rw [Token.isChar_congr hchars]
      split
      · exact .same () r' s' hside' rfl rfl
      · exact ih hside' (by omega) (by omega)
    | dangling t u s' hr hs hchars hunclosed hx hy =>
      obtain ⟨e, he⟩ := hx
      rw [bind_of_error he, bind_of_ok hy]
      exact .lost (stranded_error e) (fun a v hv w hw => hunclosed w ((hrest u _ a v hv).tokens.subset hw))
        fun h => nomatch h

theorem peek_next {α : Type} (x : Reading α) (f : Token → Reading α) :
    (peek >>= fun t => match t with
      | none => x
      | some t => next >>= fun _ => f t) =
    next >>= fun t => match t with
      | none => x
      | some t => f t := by
  funext r
  have hpeek : peek r = .ok (r.tokens.head?, r) := rfl
  rw [bind_of_ok hpeek]
  cases htokens : r.tokens with
  | nil => rw [bind_of_ok (next_nil htokens)]; rfl
  | cons t rest =>
    cases hdangling : rest.head?.any Token.isDangling with
    | true =>
      obtain ⟨e, he⟩ := next_dangling htokens hdangling
      rw [List.head?_cons, bind_of_error he]
      exact bind_of_error he
    | false =>
      rw [bind_of_ok (next_cons htokens hdangling)]
      exact bind_of_ok (next_cons htokens hdangling)

theorem skipComment_succ (start fuel : Nat) : skipComment start (fuel + 1) = next >>= fun t => match t with
    | none => do fail "missing ), unterminated comment" ((← tell) - start)
    | some t => if t.isChar ')' then return () else skipComment start fuel := peek_next _ _

theorem forward_skipComment (start fuel : Nat) : Forward (skipComment start fuel) := by
  induction fuel with
  | zero => exact forward_pure _
  | succ fuel ih =>
    rw [skipComment_succ]
    exact forward_next.bind (Option.rec (fails_failFrom _ start).forward fun t => .ite (forward_pure _) ih)

theorem parallel_skipComment (start start' n m : Nat) :
    Parallel n m (skipComment start n) (skipComment start' m) := by
  induction n generalizing m with
  | zero => exact parallel_of_zero (forward_skipComment _ _) (forward_skipComment _ _) (Or.inl rfl)
  | succ n ih =>
    cases m with
    | zero => exact parallel_of_zero (forward_skipComment _ _) (forward_skipComment _ _) (Or.inr rfl)
    | succ m =>
      rw [skipComment_succ, skipComment_succ]
      refine .next_bind (fails_failFrom _ start) (fails_failFrom _ start') fun t u hchars => ?_
      dsimp only
      rw [Token.isChar_congr hchars]
      exact .ite (parallel_pure _) (ih m)

theorem forward_closeParen (start : Nat) : Forward (closeParen start) :=
  (forward_accept _).bind fun _ => .ite (forward_pure _) (fails_failFrom _ start).forward

theorem closeParen_error {r : Reader} (start : Nat) (h : r.tokens.head?.any (·.isOneOf (· == ')')) = false) :
    ∃ e, closeParen start r = .error e := by
  rw [closeParen, bind_of_ok (accept_of_not h)]
  exact ⟨_, rfl⟩

theorem closeParen_of_next {r : Reader} (start : Nat) (h : r.tokens.head?.any (·.isOneOf (· == ')')) = true) :
    closeParen start r = (next >>= fun _ => pure ()) r := by
  have haccept := accept_of_next h
  rw [closeParen]
  rcases hnext : next r with e | ⟨t, s⟩
  · rw [bind_of_error hnext] at haccept ⊢
    rw [bind_of_error haccept]
  · rw [bind_of_ok hnext] at haccept ⊢
    rw [bind_of_ok haccept]
    rfl

theorem Reader.Unclosed.head {r : Reader} (h : r.Unclosed) : r.tokens.head?.any (·.isOneOf (· == ')')) = false := by
  cases htokens : r.tokens with
  | nil => rfl
  | cons t rest =>
    rw [List.head?_cons, Option.any_some, ← Token.isChar_eq_isOneOf]
    exact h t (htokens ▸ List.mem_cons_self)

theorem parallel_closeParen (start start' : Nat) : Parallel n m (closeParen start) (closeParen start') := by
  refine ⟨forward_closeParen _, forward_closeParen _, fun r s hside _ _ => ?_⟩
  cases hclose : s.tokens.head?.any (·.isOneOf (· == ')')) with
  | false =>
    obtain ⟨e', he'⟩ := closeParen_error start' hclose
    have hclose' : r.tokens.head?.any (·.isOneOf (· == ')')) = false := by
      by_cases hne : r.tokens = []
      · simp [hne]
      · rw [hside.any_isOneOf_of_ne_nil hne, hclose]
    obtain ⟨e, he⟩ := closeParen_error start hclose'
    rw [he, he']
    exact .lost (stranded_error e) (stranded_error e') fun _ => ⟨e, rfl⟩
  | true =>
    have htaken (hne : r.tokens ≠ []) :=
      closeParen_of_next start ((hside.any_isOneOf_of_ne_nil hne _).trans hclose)
    rw [closeParen_of_next start' hclose]
    cases hside.nexts with
    | ended u hr hs hu hy =>
      obtain ⟨e, he⟩ := closeParen_error start (r := r) (by rw [hr]; rfl)
      rw [he, bind_of_ok hy]
      refine .lost (stranded_error e) (fun a v hv w hw => ?_) fun _ => ⟨e, rfl⟩
      cases hv
      cases hw
    | both t u r' s' hr hs hchars hside' _ _ hx hy =>
      rw [htaken (by rintro h; simp [h] at hr), bind_of_ok hx, bind_of_ok hy]
      exact .same () r' s' hside' rfl rfl
    | dangling t u s' hr hs hchars hunclosed hx hy =>
      obtain ⟨e, he⟩ := hx
      rw [htaken (by rintro h; simp [h] at hr), bind_of_error he, bind_of_ok hy]
      refine .lost (stranded_error e) (fun a v hv => ?_) fun _ => ⟨e, rfl⟩
      cases hv
      exact hunclosed

/-- A reader that knows of a condition on a group. -/
def Reader.noted (r : Reader) (index place : Nat) : Reader :=
  if r.conditions.any (·.1 == index) then r else { r with conditions := r.conditions ++ [(index, place)] }

theorem Reader.reaches_noted (r : Reader) (index place : Nat) : r.Reaches (r.noted index place) := by
  unfold noted
  split
  · exact .refl r
  · exact ⟨List.suffix_rfl, List.prefix_rfl⟩

theorem Reader.Beside.noted {r s : Reader} (h : r.Beside s) (index place place' : Nat) :
    (r.noted index place).Beside (s.noted index place') := by
  have hany (r : Reader) : r.conditions.any (·.1 == index) = (r.conditions.map (·.1)).any (· == index) := by
    rw [List.any_map]
    rfl
  unfold Reader.noted
  rw [hany, hany, h.conditions]
  split
  · exact h
  · exact ⟨⟨h.groups, h.closed, h.names, h.innerGroups, by simp [h.conditions], h.flags⟩, h.unset, h.tokens⟩

theorem parallel_conditionGroup (name : List Char) : Parallel n m (conditionGroup name) (conditionGroup name) := by
  refine .ite (.get_bind fun r s h => ?_) ?_
  · rw [h.names]
    split
    · exact parallel_pure _
    · exact parallel_fail _ _ _ _
  · split
    · exact parallel_fail _ _ _ _
    · exact parallel_fail _ _ _ _
    · refine .ite (parallel_fail _ _ _ _) (.tell_bind fun i j => Parallel.bind ?_ fun _ => parallel_pure _)
      exact parallel_modify (fun r => r.reaches_noted _ _) (fun r => r.reaches_noted _ _)
        fun r s hside => hside.noted _ _ _

theorem parallel_namedOpening : Parallel n m namedOpening namedOpening := by
  have hname (terminator : Char) {n m : Nat} {f : List Char → Reading Opening}
      (h : ∀ name, Parallel n m (f name) (f name)) :
      Parallel n m (takeName terminator "group name" >>= fun name => checkName name >>= fun _ => f name)
        (takeName terminator "group name" >>= fun name => checkName name >>= fun _ => f name) :=
    (parallel_takeName _ _).bind fun name => (parallel_checkName name).bind fun _ => h name
  refine (parallel_accept rfl).bind fun _ => .ite (hname _ fun _ => parallel_pure _) ?_
  refine (parallel_accept rfl).bind fun _ => .ite (hname _ fun name => .get_bind fun r s h => ?_) ?_
  · rw [h.names]
    split
    · exact parallel_fail _ _ _ _
    · rw [Reader.isClosed, Reader.isClosed, h.closed]
      exact .ite (parallel_fail _ _ _ _) ((parallel_checkReference _).bind fun _ => parallel_pure _)
  · exact .next_bind (fails_fail _ _) (fails_fail _ _) fun t u _ => parallel_fail _ _ _ _

theorem parallel_behindOpening : Parallel n m behindOpening behindOpening := by
  refine .next_bind (fails_fail _ _) (fails_fail _ _) fun t u hchars => ?_
  dsimp only
  rw [Token.char?_congr hchars]
  split
  · exact parallel_pure _
  · exact parallel_pure _
  · exact parallel_fail _ _ _ _

/-- Flags with or without a group. -/
def flagOpening (flag : Option Flag) : Reading Opening := do
  match ← groupFlags flag with
  | some (on, off) => return .flagged on off
  | none => return .global

/-- How a group begins after its parenthesis and a question mark, by the token after these. -/
def markedOpening (start : Nat) (t : Token) : Reading Opening := do
  match t.char? with
  | some 'P' => namedOpening
  | some ':' => return .flagged [] []
  | some '#' =>
    skipComment start ((← get).tokens.length + 1)
    return .complete none
  | some '=' => return .look false false
  | some '!' => return .look false true
  | some '<' => behindOpening
  | some '(' =>
    let name ← takeName ')' "group name"
    let index ← conditionGroup name
    checkReference index
    return .condition index
  | some '>' => return .atomic
  | other =>
    let flag := other.bind Flag.ofChar?
    if flag.isSome || other == some '-' then flagOpening flag
    else fail s!"unknown extension ?{t.text}" (t.chars.length + 1)

theorem opening_eq (start : Nat) : opening start = (do
    if !(← accept '?') then return .capture none
    else
      match ← next with
      | none => fail "unexpected end of pattern"
      | some t => markedOpening start t) := rfl

/-- Openings are read in parallel, unless they are flags. -/
theorem parallel_markedOpening (start start' : Nat) {t u : Token} (h : t.chars = u.chars) :
    (∀ n m, Parallel n m (markedOpening start t) (markedOpening start' u)) ∨
      ∃ flag, markedOpening start t = flagOpening flag ∧ markedOpening start' u = flagOpening flag := by
  unfold markedOpening
  rw [Token.char?_congr h]
  split
  · exact Or.inl fun n m => parallel_namedOpening
  · exact Or.inl fun n m => parallel_pure _
  · refine Or.inl fun n m => ?_
    exact .fueled (x := fun k => do skipComment start k; return Opening.complete none)
      (y := fun k => do skipComment start' k; return Opening.complete none)
      fun n m => (parallel_skipComment _ _ n m).bind fun _ => parallel_pure _
  · exact Or.inl fun n m => parallel_pure _
  · exact Or.inl fun n m => parallel_pure _
  · exact Or.inl fun n m => parallel_behindOpening
  · exact Or.inl fun n m => (parallel_takeName _ _).bind fun name => (parallel_conditionGroup name).bind fun index =>
      (parallel_checkReference index).bind fun _ => parallel_pure _
  · exact Or.inl fun n m => parallel_pure _
  · dsimp only
    split
    · exact Or.inr ⟨_, rfl, rfl⟩
    · exact Or.inl fun n m => parallel_fail _ _ _ _

theorem forward_flagOpening (flag : Option Flag) : Forward (flagOpening flag) := by
  refine (forward_groupFlags flag).bind fun read => ?_
  split
  · exact forward_pure _
  · exact forward_pure _

theorem forward_markedOpening (start : Nat) (t : Token) : Forward (markedOpening start t) := by
  rcases parallel_markedOpening start start (Eq.refl t.chars) with h | ⟨flag, h, -⟩
  · exact (h 0 0).left
  · exact h ▸ forward_flagOpening flag

theorem forward_opening (start : Nat) : Forward (opening start) := by
  rw [opening_eq]
  exact (forward_accept _).bind fun _ => .ite (forward_pure _)
    (forward_next.bind (Option.rec (forward_fail _ _) fun t => forward_markedOpening start t))

theorem SetsFlags.flagOpening {flag : Option Flag} {r : Reader} (h : SetsFlags (· = none) (groupFlags flag r)) :
    SetsFlags (· = .global) (flagOpening flag r) := by
  intro a s heq
  obtain ⟨read, t, hread, hrest⟩ := bind_eq_ok_iff.mp heq
  obtain ⟨rfl, hflags⟩ := h read t hread
  cases hrest
  exact ⟨rfl, hflags⟩

theorem gives_flagsAfter (fuel : Nat) (on : List Flag) (stop : Char) :
    Gives (fun read _ => read ≠ none) (flagsAfter fuel on stop) := by
  have hfinish (off : List Flag) : Gives (fun read _ => read ≠ none) (if off.contains .template = true
      then fail "bad inline flags: cannot turn off global flag" 1
      else if on.any off.contains then fail "bad inline flags: flag turned on and off" 1
        else return some (on, off) : Reading (Option (List Flag × List Flag))) :=
    .ite (gives_fail _ _ _) (.ite (gives_fail _ _ _) (gives_pure fun _ => Option.some_ne_none _))
  refine .ite (gives_fail _ _ _) (.ite (.bind fun t => ?_) (.bind hfinish))
  cases t with
  | none => exact .bind hfinish
  | some t =>
    dsimp only
    split
    · exact .bind hfinish
    · exact .bind hfinish

/-- Flags that have no group are set for the whole pattern. -/
theorem gives_groupFlags (first : Option Flag) :
    Gives (fun read s => read = none → s.flags ≠ []) (groupFlags first) := by
  intro r a s h hnone
  rw [groupFlags_apply] at h
  obtain ⟨read, t, hread, hend⟩ := bind_eq_ok_iff.mp h
  cases hstop : read.2 == ')' with
  | true => exact (setsFlags_flagsEnd _ (ne_nil_of_flagsBefore hread hstop) hstop t a s hend).2
  | false =>
    rw [flagsEnd, if_neg (by simp [hstop])] at hend
    exact absurd hnone (gives_flagsAfter _ _ _ t a s hend)

theorem gives_markedOpening (start : Nat) (t : Token) :
    Gives (fun how s => how = .global → s.flags ≠ []) (markedOpening start t) := by
  unfold markedOpening
  split
  · refine .bind fun _ => .ite (.bind fun name => .bind fun _ => gives_pure (by simp)) (.bind fun _ => .ite ?_ ?_)
    · refine .bind fun name => .bind fun _ => .bind fun r => ?_
      split
      · exact gives_fail _ _ _
      · exact .ite (gives_fail _ _ _) (.bind fun _ => gives_pure (by simp))
    · exact .bind (Option.rec (gives_fail _ _ _) fun u => gives_fail _ _ _)
  · exact gives_pure (by simp)
  · exact .bind fun _ => .bind fun _ => gives_pure (by simp)
  · exact gives_pure (by simp)
  · exact gives_pure (by simp)
  · refine .bind (Option.rec (gives_fail _ _ _) fun u => ?_)
    dsimp only
    split
    · exact gives_pure (by simp)
    · exact gives_pure (by simp)
    · exact gives_fail _ _ _
  · exact .bind fun _ => .bind fun _ => .bind fun _ => gives_pure (by simp)
  · exact gives_pure (by simp)
  · refine .ite ?_ (gives_fail _ _ _)
    intro r how s h hglobal
    obtain ⟨read, u, hread, hrest⟩ := bind_eq_ok_iff.mp h
    cases read with
    | none =>
      cases hrest
      exact gives_groupFlags _ r none s hread rfl
    | some read =>
      cases hrest
      cases hglobal

theorem gives_opening (start : Nat) : Gives (fun how s => how = .global → s.flags ≠ []) (opening start) := by
  rw [opening_eq]
  exact .bind fun _ => .ite (gives_pure (by simp))
    (.bind (Option.rec (gives_fail _ _ _) fun t => gives_markedOpening start t))

/-- An opening of parallel readings is the same, or both set flags for the whole pattern. -/
theorem meet_opening (start start' : Nat) {r s : Reader} (hside : r.Beside s) :
    Meet false (opening start r) (opening start' s) ∨
      SetsFlags (· = .global) (opening start r) ∧ SetsFlags (· = .global) (opening start' s) := by
  let P (x y : Result Opening) : Prop := SetsFlags (· = .global) x ∧ SetsFlags (· = .global) y
  rw [opening_eq, opening_eq]
  have haccept := (parallel_accept (c := '?') rfl).meet r s hside (Nat.lt_succ_self _) (Nat.lt_succ_self _)
  have hmarked (start : Nat) : ∀ t, Forward (markedOpening start t) := forward_markedOpening start
  refine haccept.bind_or (P := P) (fun b => .ite (forward_pure _)
    (forward_next.bind (Option.rec (forward_fail _ _) (hmarked start')))) fun b r s _ _ hside => ?_
  split
  · exact Or.inl (.same _ r s hside rfl rfl)
  · refine Meet.next_bind_or (P := P) hside (fun _ => fails_fail _ _) (hmarked start')
      fun t u r s hchars hside _ _ => ?_
    rcases parallel_markedOpening start start' hchars with h | ⟨flag, ht, hu⟩
    · exact Or.inl ((h _ _).meet r s hside (Nat.lt_succ_self _) (Nat.lt_succ_self _))
    · dsimp only
      rw [ht, hu]
      rcases meet_groupFlags flag hside with h | ⟨hr, hs⟩
      · refine h.bind_or (fun read => ?_) fun read r s _ _ hside => Or.inl ?_
        · split
          · exact forward_pure _
          · exact forward_pure _
        · split
          · exact .same _ r s hside rfl rfl
          · exact .same _ r s hside rfl rfl
      · exact Or.inr ⟨hr.flagOpening, hs.flagOpening⟩

/-! ## Groups -/

/-- A reader that has opened a group. -/
def Reader.opened (r : Reader) (names : List (String × Nat)) : Reader :=
  { r with groups := r.groups + 1, names := r.names ++ names }

theorem Reader.Beside.opened {r s : Reader} (h : r.Beside s) (names : List (String × Nat)) :
    (r.opened names).Beside (s.opened names) :=
  ⟨⟨congrArg (· + 1) h.groups, h.closed, congrArg (· ++ names) h.names, h.innerGroups, h.conditions, h.flags⟩, h.unset,
    h.tokens⟩

/-- A group is opened, unless its name was given already. -/
theorem openGroup_apply (name : Option (List Char)) (r : Reader) :
    openGroup name r = match name.bind fun cs => r.names.lookup (String.ofList cs) with
      | some other => fail s!"redefinition of group name {Text.quoted (String.ofList (name.getD []))} as group {
          r.groups + 1}; was group {other}" ((name.getD []).length + 1) r
      | none => .ok (r.groups + 1, r.opened (name.toList.map fun cs => (String.ofList cs, r.groups + 1))) := by
  cases name with
  | none =>
    show _ = Except.ok (r.groups + 1, r.opened [])
    rw [Reader.opened, List.append_nil]
    rfl
  | some cs =>
    rw [openGroup, bind_of_ok (x := get) rfl]
    dsimp only [Option.bind_some]
    cases r.names.lookup (String.ofList cs) <;> rfl

theorem forward_openGroup (name : Option (List Char)) : Forward (openGroup name) := by
  intro r a s h
  rw [openGroup_apply] at h
  cases hlookup : name.bind fun cs => r.names.lookup (String.ofList cs) with
  | some other =>
    rw [hlookup] at h
    cases h
  | none =>
    rw [hlookup] at h
    cases h
    exact ⟨List.suffix_rfl, List.prefix_rfl⟩

theorem parallel_openGroup (name : Option (List Char)) : Parallel n m (openGroup name) (openGroup name) := by
  refine ⟨forward_openGroup name, forward_openGroup name, fun r s h _ _ => ?_⟩
  rw [openGroup_apply, openGroup_apply, h.names, h.groups]
  cases name.bind fun cs => s.names.lookup (String.ofList cs) with
  | some other => exact .lost (stranded_error _) (stranded_error _) fun _ => ⟨_, rfl⟩
  | none => exact .same _ _ _ (h.opened _) rfl rfl

theorem parallel_closeGroup (index : Nat) (body : List Node) :
    Parallel n m (closeGroup index body) (closeGroup index body) :=
  parallel_modify (fun _ => ⟨List.suffix_rfl, List.prefix_rfl⟩) (fun _ => ⟨List.suffix_rfl, List.prefix_rfl⟩)
    fun r s h => ⟨⟨h.groups, by simp only [h.closed], h.names, h.innerGroups, h.conditions, h.flags⟩, h.unset, h.tokens⟩

/-- The beginning and the end of an assertion that looks back, where it is the outermost one. -/
theorem parallel_setInner (f : Reader → Option Nat) (hf : ∀ r s : Reader, r.Alike s → f r = f s) :
    Parallel n m (modify fun r => { r with innerGroups := f r } : Reading Unit)
      (modify fun r => { r with innerGroups := f r }) :=
  parallel_modify (fun _ => ⟨List.suffix_rfl, List.prefix_rfl⟩) (fun _ => ⟨List.suffix_rfl, List.prefix_rfl⟩)
    fun r s h => ⟨⟨h.groups, h.closed, h.names, hf r s h.toAlike, h.conditions, h.flags⟩, h.unset, h.tokens⟩

end StateMachine.Pattern
