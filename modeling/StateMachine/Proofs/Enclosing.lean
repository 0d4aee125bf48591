import StateMachine.Proofs.Opening

/-!
# Reading inside of parentheses

Expressions end in one of three ways: the same is read alone as inside of parentheses, but for the closing one; the
pattern cannot be read alone, and no parenthesis is left that could close what was opened before it; or flags are set
for the whole pattern, which cannot be done inside of parentheses.
-/

namespace StateMachine.Pattern

open Reading

variable {n m : Nat}

/-! ## Expressions -/

/-- What is read after the opening of a group, given how to go on and how to read the group. -/
def afterOpening (again : Scope → List Node → Reading (List Node)) (group : Nat → Opening → Reading Node)
    (scope : Scope) (items : List Node) (start : Nat) : Opening → Reading (List Node)
  | .global => do
    if !scope.first || !items.isEmpty then
      fail "global flags not at the start of the expression" ((← tell) - start)
    else
      let verbose := (← get).flags.contains .verbose
      again { scope with verbose := verbose } items
  | .complete item => again scope (item.toList ++ items)
  | other => do
    let item ← group start other
    again scope (item :: items)

/-- What is read after a token, given how to go on and how to read a group. -/
def afterToken (again : Scope → List Node → Reading (List Node)) (group : Nat → Opening → Reading Node) (scope : Scope)
    (items : List Node) (start : Nat) (t : Token) : Reading (List Node) :=
  match t.chars with
  | ['\\', c] => do
    let item ← escape c
    again scope (item :: items)
  | c :: _ =>
    let literal : Node := .code false (Text.codeOf c)
    if scope.verbose && isSkipped c then again scope items
    else if scope.verbose && c == '#' then do
      skipLine ((← get).tokens.length + 1)
      again scope items
    else if c == '[' then do
      let item ← charSet
      again scope (item :: items)
    else if ['*', '+', '?', '\x7b'].contains c then do
      match ← repeatBounds c with
      | none => again scope (literal :: items)
      | some (least, most) =>
        let items ← repeatLast start least most items
        again scope items
    else if c == '.' then again scope (.any :: items)
    else if c == '^' then again scope (.anchor .lineStart :: items)
    else if c == '$' then again scope (.anchor .lineEnd :: items)
    else if c == '(' then opening start >>= afterOpening again group scope items start
    else again scope (literal :: items)
  | [] => return items

theorem sequence_succ (fuel : Nat) (scope : Scope) (items : List Node) : sequence (fuel + 1) scope items = (do
    if (← peek).isNone || (← peekIs fun c => c == '|' || c == ')') then
      return items.reverse.flatMap Node.ungrouped
    else
      let start ← tell
      let t := (← next).getD ⟨[], start⟩
      afterToken (sequence fuel) (groupBody fuel scope) scope items start t) := rfl

section
variable {again again' : Scope → List Node → Reading (List Node)} {group group' : Nat → Opening → Reading Node}

theorem forward_afterOpening (hagain : ∀ scope items, Forward (again scope items))
    (hgroup : ∀ start how, Forward (group start how)) (scope : Scope) (items : List Node) (start : Nat)
    (how : Opening) : Forward (afterOpening again group scope items start how) := by
  cases how with
  | «global» => exact .ite (fails_failFrom _ start).forward (forward_get.bind fun _ => hagain _ _)
  | complete item => exact hagain _ _
  | _ => exact (hgroup _ _).bind fun _ => hagain _ _

theorem forward_afterToken (hagain : ∀ scope items, Forward (again scope items))
    (hgroup : ∀ start how, Forward (group start how)) (scope : Scope) (items : List Node) (start : Nat) (t : Token) :
    Forward (afterToken again group scope items start t) := by
  unfold afterToken
  split
  · exact (parallel_escape (n := 0) (m := 0) _).left.bind fun _ => hagain _ _
  · refine .ite (hagain _ _) (.ite (forward_get.bind fun _ => (forward_skipLine _).bind fun _ => hagain _ _) ?_)
    refine .ite ((parallel_charSet (n := 0) (m := 0)).left.bind fun _ => hagain _ _) (.ite ?_ ?_)
    · refine (parallel_repeatBounds (n := 0) (m := 0) _).left.bind fun bounds => ?_
      split
      · exact hagain _ _
      · exact (parallel_repeatLast (n := 0) (m := 0) start start _ _ _).left.bind fun _ => hagain _ _
    · refine .ite (hagain _ _) (.ite (hagain _ _) (.ite (hagain _ _) (.ite ?_ (hagain _ _))))
      exact (forward_opening start).bind (forward_afterOpening hagain hgroup scope items start)
  · exact forward_pure _

end

/-- The four kinds of expressions are read forward. -/
structure ForwardAt (fuel : Nat) : Prop where
  expression : ∀ scope, Forward (expression fuel scope)
  alternatives : ∀ scope, Forward (alternatives fuel scope)
  sequence : ∀ scope items, Forward (sequence fuel scope items)
  group : ∀ scope start how, Forward (groupBody fuel scope start how)

theorem forward_setInner (f : Reader → Option Nat) :
    Forward (modify fun r => { r with innerGroups := f r } : Reading Unit) :=
  forward_modify fun _ => ⟨List.suffix_rfl, List.prefix_rfl⟩

theorem forward_groupBody {fuel : Nat} (ih : ForwardAt fuel) (scope : Scope) (start : Nat) (how : Opening) :
    Forward (groupBody (fuel + 1) scope start how) := by
  have hclose {α : Type} (x : Reading α) (hx : Forward x) : Forward (closeParen start >>= fun _ => x) :=
    (forward_closeParen start).bind fun _ => hx
  cases how with
  | capture name =>
    refine (forward_openGroup name).bind fun index => (ih.expression _).bind fun body => hclose _ ?_
    exact (parallel_closeGroup (n := 0) (m := 0) index body).left.bind fun _ => forward_pure _
  | flagged on off => exact (ih.expression _).bind fun body => hclose _ (forward_pure _)
  | atomic => exact (ih.expression _).bind fun body => hclose _ (forward_pure _)
  | look behind negated =>
    have hafter (body : List Node) := hclose _ (forward_get.bind fun r => forward_pure
      (Node.look (if behind = true then .behind (widthOf r.closed body).1 (widthOf r.closed body).2 else .ahead) negated
        body))
    refine forward_get.bind fun r => ?_
    have hbody := (ih.expression ⟨scope.verbose, false, false⟩).bind fun body =>
      Forward.ite (c := (behind && r.innerGroups.isNone) = true)
        ((forward_setInner fun _ => none).bind fun _ => hafter body) (hafter body)
    exact .ite ((forward_setInner fun r => some (r.groups + 1)).bind fun _ => hbody) hbody
  | condition index =>
    have hafter (yes no : List Node) := hclose _ (forward_pure (Node.conditional index yes no))
    refine (ih.sequence _ _).bind fun yes => (forward_accept _).bind fun _ =>
      .ite ?_ ((forward_pure []).bind (hafter yes))
    exact (ih.sequence _ _).bind fun no => (forward_peekIs _).bind fun _ =>
      .ite ((forward_fail _ _).bind (hafter yes)) ((forward_pure no).bind (hafter yes))
  | complete item => exact forward_pure _
  | «global» => exact forward_pure _

theorem forwardAt (fuel : Nat) : ForwardAt fuel := by
  induction fuel with
  | zero =>
    exact ⟨fun _ => forward_pure _, fun _ => forward_pure _, fun _ _ => forward_pure _, fun _ _ _ => forward_pure _⟩
  | succ fuel ih =>
    refine ⟨fun scope => ?_, fun scope => ?_, fun scope items => ?_, forward_groupBody ih⟩
    · exact (ih.alternatives scope).bind fun _ => forward_pure _
    · refine (ih.sequence scope []).bind fun items => (forward_accept _).bind fun _ => .ite ?_ (forward_pure _)
      exact forward_get.bind fun _ => (ih.alternatives _).bind fun _ => forward_pure _
    · rw [sequence_succ]
      refine forward_get.bind fun _ => (forward_peekIs _).bind fun _ => .ite (forward_pure _) ?_
      refine forward_get.bind fun _ => forward_next.bind fun t => ?_
      exact forward_afterToken ih.sequence (ih.group scope) scope items _ _

/-! ## Expressions side by side -/

/-- A step that takes a closing parenthesis or fails. -/
def Closes {α : Type} (x : Reading α) : Prop := ∀ r : Reader, r.Unclosed → ∃ e, x r = .error e

section
variable {α β : Type}

theorem closes_closeParen (start : Nat) (f : Unit → Reading α) : Closes (closeParen start >>= f) := by
  intro r h
  obtain ⟨e, he⟩ := closeParen_error start h.head
  exact ⟨e, bind_of_error he⟩

theorem Closes.after {x : Reading α} {f : α → Reading β} (hx : Forward x) (hf : ∀ a, Closes (f a)) :
    Closes (x >>= f) := by
  intro r h
  rcases hxr : x r with e | ⟨a, s⟩
  · exact ⟨e, bind_of_error hxr⟩
  · rw [bind_of_ok hxr]
    exact hf a s fun t ht => h t ((hx r a s hxr).tokens.subset ht)

theorem Closes.ite {c : Prop} [Decidable c] {x y : Reading α} (hx : Closes x) (hy : Closes y) :
    Closes (if c then x else y) := by
  split
  · exact hx
  · exact hy

/-- After readings that end in any way, a closing parenthesis is needed. -/
theorem Meet.close {verbose : Bool} {x y : Reading α} {f g : α → Reading β} {r s : Reader}
    (h : Meet verbose (x r) (y s)) (hf : ∀ a, Closes (f a)) (hg : ∀ a, Closes (g a))
    (hfg : ∀ a t u, x r = .ok (a, t) → y s = .ok (a, u) → t.Beside u → Meet false (f a t) (g a u)) :
    Meet false ((x >>= f) r) ((y >>= g) s) := by
  cases h with
  | same a t u hside hx hy =>
    rw [bind_of_ok hx, bind_of_ok hy]
    exact hfg a t u hx hy hside
  | lost hx hy hfail =>
    have hclosed {z : Reading α} {k : α → Reading β} {v : Reader} (hz : Stranded (z v)) (hk : ∀ a, Closes (k a)) :
        ∃ e, (z >>= k) v = .error e := by
      rcases hzv : z v with e | ⟨a, w⟩
      · exact ⟨e, bind_of_error hzv⟩
      · rw [bind_of_ok hzv]
        exact hk a w (hz a w hzv)
    obtain ⟨e, he⟩ := hclosed hx hf
    obtain ⟨e', he'⟩ := hclosed hy hg
    rw [he, he']
    exact .lost (stranded_error e) (stranded_error e') fun _ => ⟨e, rfl⟩

end

/-- The scope of what is read before a closing parenthesis, for the scope of what is read alone. -/
structure Scope.Inside (outer inner : Scope) : Prop where
  verbose : inner.verbose = outer.verbose
  top : inner.top = false
  first : inner.first = false
  plain : outer.top = true → outer.verbose = false

/-- Flags were set for the whole pattern, which cannot be done inside of parentheses. -/
def EndsGlobal {α : Type} (scope : Scope) (x y : Result α) : Prop :=
  scope.first = true ∧ (∀ a s, x = .ok (a, s) → s.flags ≠ []) ∧ ∃ e, y = .error e

/-- How expressions side by side end. -/
def Ends {α : Type} (scope : Scope) (x y : Result α) : Prop := Meet scope.verbose x y ∨ EndsGlobal scope x y

/-- How two steps end that begin with given readers. -/
def EndsFrom {α : Type} (scope : Scope) (r s : Reader) (x y : Reading α) : Prop := Ends scope (x r) (y s)

theorem EndsGlobal.bind {α β : Type} {scope : Scope} {x y : Reading α} {f g : α → Reading β} {r s : Reader}
    (h : EndsGlobal scope (x r) (y s)) (hf : ∀ a, Forward (f a)) : EndsGlobal scope ((x >>= f) r) ((y >>= g) s) := by
  obtain ⟨hfirst, hflags, e, he⟩ := h
  refine ⟨hfirst, fun b t hb => ?_, e, bind_of_error he⟩
  obtain ⟨a, u, ha, hrest⟩ := bind_eq_ok_iff.mp hb
  intro hnil
  have hstarts := (hf a u b t hrest).flags
  rw [hnil, List.prefix_nil] at hstarts
  exact hflags a u ha hstarts

/-- In verbose patterns, what follows may be lost too. -/
theorem Ends.bind {α β : Type} {scope : Scope} {x y : Reading α} {f g : α → Reading β} {r s : Reader}
    (h : Ends scope (x r) (y s)) (hf : ∀ a, Forward (f a)) (hg : ∀ a, Forward (g a))
    (hfg : ∀ a t u, x r = .ok (a, t) → y s = .ok (a, u) → t.Beside u → Ends scope (f a t) (g a u)) :
    Ends scope ((x >>= f) r) ((y >>= g) s) := by
  rcases h with h | h
  · cases h with
    | same a t u hside hx hy =>
      rw [bind_of_ok hx, bind_of_ok hy]
      exact hfg a t u hx hy hside
    | lost hx hy hfail =>
      refine Or.inl (.lost (hx.bind hf) (hy.bind hg) fun hv => ?_)
      obtain ⟨e, he⟩ := hfail hv
      exact ⟨e, bind_of_error he⟩
  · exact Or.inr (h.bind hf)

section
variable {again again' : Scope → List Node → Reading (List Node)} {group group' : Nat → Opening → Reading Node}

/-- Two readers go on side by side as long as they have few enough tokens left. -/
structure GoOn (n m : Nat) (again again' : Scope → List Node → Reading (List Node)) : Prop where
  left : ∀ scope items, Forward (again scope items)
  right : ∀ scope items, Forward (again' scope items)
  ends : ∀ (scope scope' : Scope) items (r s : Reader), scope.Inside scope' → r.Beside s → r.tokens.length < n →
    s.tokens.length < m → Ends scope (again scope items r) (again' scope' items s)

variable {n m : Nat} {scope scope' : Scope} {r s : Reader}

/-- After a step that is read in parallel, the rest follows. -/
theorem GoOn.bind {α : Type} (h : GoOn n m again again') (hscope : scope.Inside scope') {x y : Reading α}
    (hxy : Parallel n m x y) (f : α → List Node) (hside : r.Beside s) (hn : r.tokens.length < n)
    (hm : s.tokens.length < m) :
    Ends scope ((x >>= fun a => again scope (f a)) r) ((y >>= fun a => again' scope' (f a)) s) := by
  refine (hxy.meet r s hside hn hm).bind_or (fun a => h.right scope' (f a)) fun a t u hx hy hside => ?_
  exact h.ends _ _ _ t u hscope hside (Nat.lt_of_le_of_lt (hxy.left r a t hx).length_le hn)
    (Nat.lt_of_le_of_lt (hxy.right s a u hy).length_le hm)

/-- Flags for the whole pattern are refused inside of parentheses. -/
theorem ends_of_setsFlags (h : GoOn n m again again') (hscope : scope.Inside scope') (items : List Node)
    (start start' : Nat) (hr : SetsFlags (· = .global) (opening start r))
    (hs : SetsFlags (· = .global) (opening start' s)) :
    Ends scope ((opening start >>= afterOpening again group scope items start) r)
      ((opening start' >>= afterOpening again' group' scope' items start') s) := by
  have hrefused {α : Type} {x : Reading α} {k : α → Reading (List Node)} {P : α → Prop} {v : Reader}
      (hx : SetsFlags P (x v)) (hk : ∀ a w, P a → ∃ e, k a w = .error e) : ∃ e, (x >>= k) v = .error e := by
    rcases hxv : x v with e | ⟨a, w⟩
    · exact ⟨e, bind_of_error hxv⟩
    · rw [bind_of_ok hxv]
      exact hk a w (hx a w hxv).1
  have hright := hrefused (k := afterOpening again' group' scope' items start') hs fun how w hhow => by
    rw [hhow, afterOpening, hscope.first]
    exact ⟨_, rfl⟩
  cases hfirst : scope.first with
  | true =>
    refine Or.inr ⟨hfirst, fun a t ha => ?_, hright⟩
    obtain ⟨how, u, hu, hrest⟩ := bind_eq_ok_iff.mp ha
    obtain ⟨rfl, hflags⟩ := hr how u hu
    have hforward : Forward (afterOpening again group scope items start .global) :=
      .ite (fails_failFrom _ start).forward (forward_get.bind fun _ => h.left _ _)
    intro hnil
    have hstarts := (hforward u a t hrest).flags
    rw [hnil, List.prefix_nil] at hstarts
    exact hflags hstarts
  | false =>
    obtain ⟨e, he⟩ := hrefused (k := afterOpening again group scope items start) hr fun how w hhow => by
      rw [hhow, afterOpening, hfirst]
      exact ⟨_, rfl⟩
    obtain ⟨e', he'⟩ := hright
    rw [he, he']
    exact Or.inl (.lost (stranded_error e) (stranded_error e') fun _ => ⟨e, rfl⟩)

theorem ends_opening (h : GoOn n m again again') (hgroup : ∀ start how, Forward (group start how))
    (hgroup' : ∀ start how, Forward (group' start how))
    (hbody : ∀ start start' how (r s : Reader), r.Beside s → r.tokens.length < n → s.tokens.length < m →
      Meet false (group start how r) (group' start' how s))
    (hscope : scope.Inside scope') (items : List Node) (start start' : Nat) (hside : r.Beside s)
    (hn : r.tokens.length < n) (hm : s.tokens.length < m) :
    Ends scope ((opening start >>= afterOpening again group scope items start) r)
      ((opening start' >>= afterOpening again' group' scope' items start') s) := by
  rcases meet_opening start start' hside with hmeet | ⟨hr, hs⟩
  case inr => exact ends_of_setsFlags h hscope items start start' hr hs
  refine hmeet.bind_or (forward_afterOpening h.right hgroup' scope' items start') fun how t u hx hy hside' => ?_
  have hn' := Nat.lt_of_le_of_lt (forward_opening start r how t hx).length_le hn
  have hm' := Nat.lt_of_le_of_lt (forward_opening start' s how u hy).length_le hm
  have hother : Ends scope ((group start how >>= fun item => again scope (item :: items)) t)
      ((group' start' how >>= fun item => again' scope' (item :: items)) u) := by
    refine (hbody start start' how t u hside' hn' hm').bind_or (fun _ => h.right _ _) fun item v w hv hw hside'' => ?_
    exact h.ends _ _ _ v w hscope hside'' (Nat.lt_of_le_of_lt (hgroup _ _ t item v hv).length_le hn')
      (Nat.lt_of_le_of_lt (hgroup' _ _ u item w hw).length_le hm')
  cases how with
  | «global» => exact absurd hside'.unset (gives_opening start r .global t hx rfl)
  | complete item => exact h.ends _ _ _ t u hscope hside' hn' hm'
  | _ => exact hother

/-- A comment is skipped up to the end of its line. -/
theorem ends_skipLine (h : GoOn n m again again') (hscope : scope.Inside scope') (hverbose : scope.verbose = true)
    (items : List Node) (hside : r.Beside s) (hn : r.tokens.length < n) (hm : s.tokens.length < m) :
    Ends scope ((skipLine (r.tokens.length + 1) >>= fun _ => again scope items) r)
      ((skipLine (s.tokens.length + 1) >>= fun _ => again' scope' items) s) := by
  have hskip : Ends scope (skipLine (r.tokens.length + 1) r) (skipLine (s.tokens.length + 1) s) :=
    Or.inl (hverbose ▸ meet_skipLine hside (Nat.lt_succ_self _) (Nat.lt_succ_self _))
  refine hskip.bind (fun _ => h.left scope items) (fun _ => h.right scope' items) fun _ t u hx hy hside' => ?_
  exact h.ends _ _ _ t u hscope hside' (Nat.lt_of_le_of_lt (forward_skipLine _ r _ t hx).length_le hn)
    (Nat.lt_of_le_of_lt (forward_skipLine _ s _ u hy).length_le hm)

/-- What is read after a token ends as what is read further ends. -/
theorem ends_afterToken (h : GoOn n m again again') (hgroup : ∀ start how, Forward (group start how))
    (hgroup' : ∀ start how, Forward (group' start how))
    (hbody : ∀ start start' how (r s : Reader), r.Beside s → r.tokens.length < n → s.tokens.length < m →
      Meet false (group start how r) (group' start' how s))
    (hscope : scope.Inside scope') (items : List Node) (start start' : Nat) {t u : Token} (hchars : t.chars = u.chars)
    (hside : r.Beside s) (hn : r.tokens.length < n) (hm : s.tokens.length < m) :
    Ends scope (afterToken again group scope items start t r) (afterToken again' group' scope' items start' u s) := by
  have hgo (items : List Node) := h.ends scope scope' items r s hscope hside hn hm
  change EndsFrom scope r s _ _
  unfold afterToken
  rw [hchars]
  split
  · exact h.bind hscope (parallel_escape _) (· :: items) hside hn hm
  · dsimp only
    rw [hscope.verbose]
    split
    · exact hgo items
    split
    case isTrue hcomment => exact ends_skipLine h hscope (Bool.and_eq_true_iff.mp hcomment).1 items hside hn hm
    split
    · exact h.bind hscope parallel_charSet (· :: items) hside hn hm
    split
    · refine ((parallel_repeatBounds _).meet r s hside hn hm).bind_or (fun bounds => ?_)
        fun bounds t u hx hy hside' => ?_
      · split
        · exact h.right _ _
        · exact (parallel_repeatLast (n := 0) (m := 0) start' start' _ _ _).left.bind fun _ => h.right _ _
      · have hn' := Nat.lt_of_le_of_lt ((parallel_repeatBounds (n := 0) (m := 0) _).left r bounds t hx).length_le hn
        have hm' := Nat.lt_of_le_of_lt ((parallel_repeatBounds (n := 0) (m := 0) _).left s bounds u hy).length_le hm
        split
        · exact h.ends _ _ _ t u hscope hside' hn' hm'
        · exact h.bind hscope (parallel_repeatLast start start' _ _ items) id hside' hn' hm'
    split
    · exact hgo _
    split
    · exact hgo _
    split
    · exact hgo _
    split
    · exact ends_opening h hgroup hgroup' hbody hscope items start start' hside hn hm
    · exact hgo _
  · exact Or.inl (.same items r s hside rfl rfl)

end

/-- The four kinds of expressions end alike from readers side by side, if there is fuel enough for their tokens. -/
structure PairedAt (n : Nat) : Prop where
  expression : ∀ m (scope scope' : Scope) (r s : Reader), scope.Inside scope' → r.Beside s →
    4 * r.tokens.length + 2 < n → 4 * s.tokens.length + 2 < m →
    Ends scope (expression n scope r) (expression m scope' s)
  alternatives : ∀ m (scope scope' : Scope) (r s : Reader), scope.Inside scope' → r.Beside s →
    4 * r.tokens.length + 1 < n → 4 * s.tokens.length + 1 < m →
    Ends scope (alternatives n scope r) (alternatives m scope' s)
  sequence : ∀ m (scope scope' : Scope) items (r s : Reader), scope.Inside scope' → r.Beside s →
    4 * r.tokens.length < n → 4 * s.tokens.length < m →
    Ends scope (sequence n scope items r) (sequence m scope' items s)
  group : ∀ m (scope scope' : Scope) start start' how (r s : Reader), scope'.verbose = scope.verbose → r.Beside s →
    4 * r.tokens.length + 3 < n → 4 * s.tokens.length + 3 < m →
    Meet false (groupBody n scope start how r) (groupBody m scope' start' how s)

section
variable {n m : Nat} {scope scope' : Scope} {r s : Reader}

/-- Inside of parentheses nothing is at the top. -/
theorem inside_inner (verbose : Bool) : Scope.Inside ⟨verbose, false, false⟩ ⟨verbose, false, false⟩ :=
  ⟨rfl, rfl, rfl, fun h => nomatch h⟩

theorem Ends.meet {α : Type} {verbose top : Bool} {x y : Result α} (h : Ends ⟨verbose, top, false⟩ x y) :
    Meet verbose x y := h.resolve_right fun hglobal => nomatch hglobal.1

/-- Whether the items of a sequence end with the next token. -/
def Reader.stops (r : Reader) : Bool :=
  r.tokens.head?.isNone || r.tokens.head?.any (·.isOneOf fun c => c == '|' || c == ')')

theorem Reader.Beside.stops_eq (h : r.Beside s) : r.stops = s.stops := by
  by_cases hne : r.tokens = []
  · cases h.nexts with
    | ended u hr hs hu hy => simp [stops, hr, hs, Token.isOneOf, Token.char?, hu]
    | both t u r' s' hr => simp [hne] at hr
    | dangling t u s' hr => simp [hne] at hr
  · have hnone : r.tokens.head?.isNone = s.tokens.head?.isNone := by
      cases h.nexts with
      | ended u hr => exact absurd hr hne
      | both t u r' s' hr hs => rw [hr, hs]; rfl
      | dangling t u s' hr hs => rw [hr, hs]; rfl
    rw [stops, stops, hnone, h.any_isOneOf_of_ne_nil hne]

theorem sequence_apply (fuel : Nat) (scope : Scope) (items : List Node) (r : Reader) :
    sequence (fuel + 1) scope items r = (if r.stops then return items.reverse.flatMap Node.ungrouped
      else do
        let start ← tell
        let t := (← next).getD ⟨[], start⟩
        afterToken (sequence fuel) (groupBody fuel scope) scope items start t : Reading (List Node)) r := rfl

theorem sequence_stopped (fuel : Nat) (scope : Scope) (items : List Node) (h : r.stops = true) :
    sequence (fuel + 1) scope items r = .ok (items.reverse.flatMap Node.ungrouped, r) := by
  rw [sequence_apply, if_pos h]
  rfl

theorem sequence_cons (fuel : Nat) (scope : Scope) (items : List Node) {t : Token} {rest : List Token}
    (hr : r.tokens = t :: rest) (hstops : r.stops = false) (hrest : rest.head?.any Token.isDangling = false) :
    sequence (fuel + 1) scope items r =
      afterToken (sequence fuel) (groupBody fuel scope) scope items t.position t { r with tokens := rest } := by
  have htell : tell r = .ok (t.position, r) := by
    change Except.ok ((r.tokens.head?.map (·.position)).getD r.size, r) = _
    rw [hr]
    rfl
  rw [sequence_apply, hstops, if_neg Bool.false_ne_true, bind_of_ok htell, bind_of_ok (next_cons hr hrest)]
  rfl

theorem ends_sequence (ih : PairedAt n) (hscope : scope.Inside scope') (items : List Node) (hside : r.Beside s)
    (hn : 4 * r.tokens.length < n + 1) (hm : 4 * s.tokens.length < m + 1) :
    Ends scope (sequence (n + 1) scope items r)
      (sequence (m + 1) scope' items s) := by
  have hgo : GoOn (n / 4) (m / 4) (sequence n) (sequence m) :=
    ⟨(forwardAt n).sequence, (forwardAt m).sequence, fun scope scope' items r s hscope hside hn hm =>
      ih.sequence m scope scope' items r s hscope hside (by omega) (by omega)⟩
  rw [sequence_apply, sequence_apply, hside.stops_eq]
  cases hstops : s.stops with
  | true => exact Or.inl (.same _ r s hside rfl rfl)
  | false =>
    have hne : r.tokens ≠ [] := by
      rintro hnil
      rw [← hside.stops_eq, Reader.stops, hnil] at hstops
      cases hstops
    have htell (r : Reader) : tell r = .ok ((r.tokens.head?.map (·.position)).getD r.size, r) := rfl
    rw [if_neg Bool.false_ne_true, if_neg Bool.false_ne_true, bind_of_ok (htell r), bind_of_ok (htell s)]
    refine Meet.next_bind_or (P := EndsGlobal scope) hside (fun hnil => absurd hnil hne)
      (fun t => forward_afterToken hgo.right ((forwardAt m).group scope') scope' items _ _)
      fun t u r' s' hchars hside' hlt hlt' => ?_
    exact ends_afterToken hgo ((forwardAt n).group scope) ((forwardAt m).group scope')
      (fun start start' how r s hside hn hm => ih.group m scope scope' start start' how r s hscope.verbose hside
        (by omega) (by omega))
      hscope items _ _ hchars hside' (by omega) (by omega)

/-- What follows after the items of the first of some alternatives. -/
def afterItems (fuel : Nat) (scope : Scope) (items : List Node) : Reading (List (List Node)) := do
  if ← accept '|' then
    let flags := (← get).flags
    let verbose := if scope.top then flags.contains .verbose else scope.verbose
    let others ← alternatives fuel { scope with verbose := verbose, first := false }
    return items :: others
  else return [items]

theorem alternatives_succ (fuel : Nat) (scope : Scope) :
    alternatives (fuel + 1) scope = sequence fuel scope [] >>= afterItems fuel scope := rfl

theorem afterItems_ended (fuel : Nat) (scope : Scope) (items : List Node) (h : r.tokens = []) :
    afterItems fuel scope items r = .ok ([items], r) := by
  rw [afterItems, bind_of_ok (accept_of_not (by rw [h]; rfl))]
  rfl

theorem forward_afterItems (fuel : Nat) (scope : Scope) (items : List Node) : Forward (afterItems fuel scope items) :=
  (forward_accept _).bind fun _ => .ite
    (forward_get.bind fun _ => ((forwardAt fuel).alternatives _).bind fun _ => forward_pure _) (forward_pure _)

theorem ends_afterItems (ih : PairedAt n) (hscope : scope.Inside scope') (items : List Node) (hside : r.Beside s)
    (hn : 4 * r.tokens.length < n + 1) (hm : 4 * s.tokens.length < m + 1) :
    Ends scope (afterItems n scope items r) (afterItems m scope' items s) := by
  have hothers (k : Nat) (scope : Scope) (b : Bool) : Forward (if b = true then do
      let flags := (← get).flags
      let verbose := if scope.top then flags.contains .verbose else scope.verbose
      let others ← alternatives k { scope with verbose := verbose, first := false }
      return items :: others
      else return [items]) :=
    .ite (forward_get.bind fun _ => ((forwardAt k).alternatives _).bind fun _ => forward_pure _) (forward_pure _)
  have hbar := (parallel_accept (c := '|') rfl).meet r s hside (Nat.lt_succ_self _) (Nat.lt_succ_self _)
  refine hbar.bind_or (P := EndsGlobal scope) (hothers m scope') fun bar t u hx hy hside' => ?_
  cases bar with
  | false => exact Or.inl (.same _ t u hside' rfl rfl)
  | true =>
    have hverbose : (if scope.top then t.flags.contains .verbose else scope.verbose) = scope.verbose := by
      split
      case isTrue htop => rw [hside'.unset, hscope.plain htop]; rfl
      case isFalse => rfl
    have hverbose' : (if scope'.top then u.flags.contains .verbose else scope'.verbose) = scope.verbose := by
      rw [hscope.top, hscope.verbose]
      rfl
    have hlt := length_lt_of_accept hx
    have hlt' := length_lt_of_accept hy
    have hmeet := (ih.alternatives m ⟨scope.verbose, scope.top, false⟩ ⟨scope.verbose, scope'.top, false⟩ t u
      ⟨rfl, hscope.top, rfl, hscope.plain⟩ hside' (by omega) (by omega)).meet
    have hends : Ends scope (alternatives n ⟨scope.verbose, scope.top, false⟩ t)
        (alternatives m ⟨scope.verbose, scope'.top, false⟩ u) := Or.inl hmeet
    have hall := hends.bind (f := fun others => pure (items :: others)) (g := fun others => pure (items :: others))
      (fun _ => forward_pure _) (fun _ => forward_pure _) fun others t u _ _ hside => Or.inl (.same _ t u hside rfl rfl)
    rw [if_pos rfl, if_pos rfl, bind_of_ok (x := get) rfl, bind_of_ok (x := get) rfl, hverbose, hverbose']
    exact hall

theorem ends_alternatives (ih : PairedAt n) (hscope : scope.Inside scope') (hside : r.Beside s)
    (hn : 4 * r.tokens.length + 1 < n + 1) (hm : 4 * s.tokens.length + 1 < m + 1) :
    Ends scope (alternatives (n + 1) scope r) (alternatives (m + 1) scope' s) := by
  have hitems := ih.sequence m scope scope' [] r s hscope hside (by omega) (by omega)
  refine hitems.bind (forward_afterItems n scope) (forward_afterItems m scope') fun items t u hx hy hside' => ?_
  have hn' := ((forwardAt n).sequence scope [] r items t hx).length_le
  have hm' := ((forwardAt m).sequence scope' [] s items u hy).length_le
  exact ends_afterItems ih hscope items hside' (by omega) (by omega)

theorem ends_expression (ih : PairedAt n) (hscope : scope.Inside scope') (hside : r.Beside s)
    (hn : 4 * r.tokens.length + 2 < n + 1) (hm : 4 * s.tokens.length + 2 < m + 1) :
    Ends scope (expression (n + 1) scope r) (expression (m + 1) scope' s) :=
  (ih.alternatives m scope scope' r s hscope hside (by omega) (by omega)).bind (fun _ => forward_pure _)
    (fun _ => forward_pure _) fun _ t u _ _ hside' => Or.inl (.same _ t u hside' rfl rfl)

/-- What stands in a group is followed by a step that closes it. -/
theorem Meet.thenClose {α β : Type} {verbose : Bool} {x y : Reading α} {f g : α → Reading β}
    (h : Meet verbose (x r) (y s)) (hf : ∀ a, Closes (f a)) (hg : ∀ a, Closes (g a))
    (hfg : ∀ a n m, Parallel n m (f a) (g a)) : Meet false ((x >>= f) r) ((y >>= g) s) :=
  h.close hf hg fun a t u _ _ hside => (hfg a _ _).meet t u hside (Nat.lt_succ_self _) (Nat.lt_succ_self _)

theorem meet_expression (ih : PairedAt n) (verbose : Bool) (hside : r.Beside s) (hn : 4 * r.tokens.length + 2 < n)
    (hm : 4 * s.tokens.length + 2 < m) :
    Meet verbose (expression n ⟨verbose, false, false⟩ r) (expression m ⟨verbose, false, false⟩ s) :=
  (ih.expression m _ _ r s (inside_inner verbose) hside hn hm).meet

theorem meet_sequence (ih : PairedAt n) (verbose : Bool) (hside : r.Beside s) (hn : 4 * r.tokens.length < n)
    (hm : 4 * s.tokens.length < m) :
    Meet verbose (sequence n ⟨verbose, false, false⟩ [] r) (sequence m ⟨verbose, false, false⟩ [] s) :=
  (ih.sequence m _ _ [] r s (inside_inner verbose) hside hn hm).meet

theorem parallel_close {α : Type} (start start' : Nat) {x y : Reading α} (h : Parallel n m x y) :
    Parallel n m (closeParen start >>= fun _ => x) (closeParen start' >>= fun _ => y) :=
  (parallel_closeParen start start').bind fun _ => h

/-- The end of an assertion after its pattern. -/
def endOfLook (start : Nat) (behind negated outermost : Bool) (body : List Node) : Reading Node := do
  if outermost then modify fun r => { r with innerGroups := none }
  closeParen start
  let (least, most) := widthOf (← get).closed body
  return .look (if behind then .behind least most else .ahead) negated body

theorem parallel_endOfLook (start start' : Nat) (behind negated outermost : Bool) (body : List Node) :
    Parallel n m (endOfLook start behind negated outermost body) (endOfLook start' behind negated outermost body) := by
  let node (r : Reader) : Node :=
    .look (if behind = true then .behind (widthOf r.closed body).1 (widthOf r.closed body).2 else .ahead) negated body
  have hnode : Parallel n m (get >>= fun r => pure (node r)) (get >>= fun r => pure (node r)) := by
    refine .get_bind fun r s h => ?_
    rw [show node r = node s by simp only [node, h.closed]]
    exact parallel_pure _
  have hend := parallel_close start start' hnode
  exact .ite ((parallel_setInner _ fun _ _ _ => rfl).bind fun _ => hend) hend

theorem closes_endOfLook (start : Nat) (behind negated outermost : Bool) (body : List Node) :
    Closes (endOfLook start behind negated outermost body) :=
  .ite (.after (forward_setInner _) fun _ => closes_closeParen start _) (closes_closeParen start _)

/-- Assertions are read alike, or cannot be closed. -/
theorem meet_look (ih : PairedAt n) (verbose : Bool) (start start' : Nat) (behind negated outermost : Bool)
    (hside : r.Beside s) (hn : 4 * r.tokens.length + 2 < n) (hm : 4 * s.tokens.length + 2 < m) :
    Meet false
      ((do
        if outermost then modify fun r => { r with innerGroups := some (r.groups + 1) }
        endOfLook start behind negated outermost (← expression n ⟨verbose, false, false⟩) : Reading Node) r)
      ((do
        if outermost then modify fun r => { r with innerGroups := some (r.groups + 1) }
        endOfLook start' behind negated outermost (← expression m ⟨verbose, false, false⟩) : Reading Node) s) := by
  have hforward (b : Bool) := ((forwardAt m).expression ⟨verbose, false, false⟩).bind fun body =>
    (parallel_endOfLook (n := 0) (m := 0) start' start' behind negated b body).left
  have hbody {t u : Reader} (hside : t.Beside u) (ht : t.tokens.length ≤ r.tokens.length)
      (hu : u.tokens.length ≤ s.tokens.length) :=
    (meet_expression ih verbose hside (show 4 * t.tokens.length + 2 < n by omega)
      (show 4 * u.tokens.length + 2 < m by omega)).thenClose (closes_endOfLook start behind negated outermost)
      (closes_endOfLook start' behind negated outermost)
      fun body _ _ => parallel_endOfLook start start' behind negated outermost body
  cases outermost with
  | false => exact hbody hside (Nat.le_refl _) (Nat.le_refl _)
  | true =>
    have hset := (parallel_setInner (fun r => some (r.groups + 1)) fun r s h => by rw [h.groups]).meet r s hside
      (Nat.lt_succ_self _) (Nat.lt_succ_self _)
    refine hset.bind (fun _ => hforward true) fun _ t u hx hy hside' => hbody hside' ?_ ?_
    · exact ((forward_setInner _) r _ t hx).length_le
    · exact ((forward_setInner _) s _ u hy).length_le

/-- The second pattern of a condition, and its end. -/
def restOfCondition (fuel : Nat) (scope : Scope) (start index : Nat) (yes : List Node) : Reading Node := do
  let no ←
    if ← accept '|' then
      let no ← sequence fuel scope []
      if ← peekIs (· == '|') then
        fail "conditional backref with more than two branches"
      else pure no
    else pure []
  closeParen start
  return .conditional index yes no

/-- The end of a condition after its second pattern. -/
def endOfCondition (start index : Nat) (yes no : List Node) : Reading Node := do
  if ← peekIs (· == '|') then
    let no ← fail "conditional backref with more than two branches"
    closeParen start
    return .conditional index yes no
  else
    closeParen start
    return .conditional index yes no

theorem closes_endOfCondition (start index : Nat) (yes no : List Node) : Closes (endOfCondition start index yes no) :=
  .after (forward_peekIs _) fun _ => .ite (.after (forward_fail _ _) fun _ => closes_closeParen start _)
    (closes_closeParen start _)

theorem parallel_endOfCondition (start start' index : Nat) (yes no : List Node) :
    Parallel n m (endOfCondition start index yes no) (endOfCondition start' index yes no) := by
  have hend (no : List Node) :=
    parallel_close (n := n) (m := m) start start' (parallel_pure (Node.conditional index yes no))
  exact (parallel_peekIs rfl).bind fun _ => .ite ((parallel_fail _ _ _ _).bind hend) (hend no)

theorem closes_restOfCondition (fuel : Nat) (scope : Scope) (start index : Nat) (yes : List Node) :
    Closes (restOfCondition fuel scope start index yes) :=
  .after (forward_accept _) fun _ => .ite
    (.after ((forwardAt fuel).sequence _ _) fun no => closes_endOfCondition start index yes no)
    (.after (forward_pure []) fun _ => closes_closeParen start _)

theorem meet_restOfCondition (ih : PairedAt n) (verbose : Bool) (start start' index : Nat) (yes : List Node)
    (hside : r.Beside s) (hn : 4 * r.tokens.length < n) (hm : 4 * s.tokens.length < m) :
    Meet false (restOfCondition n ⟨verbose, false, false⟩ start index yes r)
      (restOfCondition m ⟨verbose, false, false⟩ start' index yes s) := by
  have hbar := (parallel_accept (c := '|') rfl).meet r s hside (Nat.lt_succ_self _) (Nat.lt_succ_self _)
  have hforward (b : Bool) : Forward (if b = true
      then sequence m ⟨verbose, false, false⟩ [] >>= fun no => endOfCondition start' index yes no
      else pure [] >>= fun no => closeParen start' >>= fun _ => pure (Node.conditional index yes no)) :=
    .ite (((forwardAt m).sequence _ _).bind fun no =>
      (parallel_endOfCondition (n := 0) (m := 0) start' start' index yes no).left)
      ((forward_pure _).bind fun _ => (forward_closeParen _).bind fun _ => forward_pure _)
  refine hbar.bind hforward fun bar t u hx hy hside' => ?_
  cases bar with
  | false =>
    exact (parallel_close start start' (parallel_pure _)).meet t u hside' (Nat.lt_succ_self _) (Nat.lt_succ_self _)
  | true =>
    have hlt := length_lt_of_accept hx
    have hlt' := length_lt_of_accept hy
    exact (meet_sequence ih verbose hside' (by omega) (by omega)).thenClose
      (fun no => closes_endOfCondition start index yes no) (fun no => closes_endOfCondition start' index yes no)
      fun no _ _ => parallel_endOfCondition start start' index yes no

/-- A group is read alike, or cannot be closed. -/
theorem meet_groupBody (ih : PairedAt n) (hverbose : scope'.verbose = scope.verbose) (start start' : Nat)
    (how : Opening) (hside : r.Beside s) (hn : 4 * r.tokens.length + 3 < n + 1) (hm : 4 * s.tokens.length + 3 < m + 1) :
    Meet false (groupBody (n + 1) scope start how r) (groupBody (m + 1) scope' start' how s) := by
  have hn' : 4 * r.tokens.length + 2 < n := by omega
  have hm' : 4 * s.tokens.length + 2 < m := by omega
  cases how with
  | capture name =>
    rw [groupBody, groupBody, hverbose]
    have hopen := (parallel_openGroup name).meet r s hside (Nat.lt_succ_self _) (Nat.lt_succ_self _)
    have hclose (index : Nat) (body : List Node) (n m : Nat) := parallel_close (n := n) (m := m) start start'
      ((parallel_closeGroup index body).bind fun _ => parallel_pure (Node.group (some index) [] [] body))
    refine hopen.bind (fun index => ((forwardAt m).expression _).bind fun body => (hclose index body 0 0).right)
      fun index t u hx hy hside' => ?_
    have hle := (forward_openGroup name r index t hx).length_le
    have hle' := (forward_openGroup name s index u hy).length_le
    exact (meet_expression ih _ hside' (by omega) (by omega)).thenClose (fun _ => closes_closeParen start _)
      (fun _ => closes_closeParen start' _) (hclose index)
  | flagged on off =>
    rw [groupBody, groupBody, hverbose]
    exact (meet_expression ih _ hside hn' hm').thenClose (fun _ => closes_closeParen start _)
      (fun _ => closes_closeParen start' _) fun body n m => parallel_close start start' (parallel_pure _)
  | atomic =>
    rw [groupBody, groupBody, hverbose]
    exact (meet_expression ih _ hside hn' hm').thenClose (fun _ => closes_closeParen start _)
      (fun _ => closes_closeParen start' _) fun body n m => parallel_close start start' (parallel_pure _)
  | look behind negated =>
    rw [groupBody, groupBody, hverbose, bind_of_ok (x := get) rfl, bind_of_ok (x := get) rfl, hside.innerGroups]
    exact meet_look ih _ start start' behind negated _ hside hn' hm'
  | condition index =>
    rw [groupBody, groupBody, hverbose]
    exact (meet_sequence ih _ hside (by omega) (by omega)).close
      (fun yes => closes_restOfCondition n _ start index yes) (fun yes => closes_restOfCondition m _ start' index yes)
      fun yes t u hx hy hside' => meet_restOfCondition ih _ start start' index yes hside'
        (Nat.lt_of_le_of_lt (Nat.mul_le_mul_left 4 ((forwardAt n).sequence _ _ r yes t hx).length_le) (by omega))
        (Nat.lt_of_le_of_lt (Nat.mul_le_mul_left 4 ((forwardAt m).sequence _ _ s yes u hy).length_le) (by omega))
  | complete item => exact .same _ r s hside rfl rfl
  | «global» => exact .same _ r s hside rfl rfl

theorem pairedAt (n : Nat) : PairedAt n := by
  induction n with
  | zero => constructor <;> intros <;> omega
  | succ n ih =>
    refine ⟨?_, ?_, ?_, ?_⟩
    · intro m scope scope' r s hscope hside hn hm
      obtain ⟨m, rfl⟩ := Nat.exists_eq_succ_of_ne_zero (Nat.ne_zero_of_lt hm)
      exact ends_expression ih hscope hside hn hm
    · intro m scope scope' r s hscope hside hn hm
      obtain ⟨m, rfl⟩ := Nat.exists_eq_succ_of_ne_zero (Nat.ne_zero_of_lt hm)
      exact ends_alternatives ih hscope hside hn hm
    · intro m scope scope' items r s hscope hside hn hm
      obtain ⟨m, rfl⟩ := Nat.exists_eq_succ_of_ne_zero (Nat.ne_zero_of_lt hm)
      exact ends_sequence ih hscope items hside hn hm
    · intro m scope scope' start start' how r s hverbose hside hn hm
      obtain ⟨m, rfl⟩ := Nat.exists_eq_succ_of_ne_zero (Nat.ne_zero_of_lt hm)
      exact meet_groupBody ih hverbose start start' how hside hn hm

end

end StateMachine.Pattern
