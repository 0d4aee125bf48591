import StateMachine.Proofs.Enclosing
import StateMachine.Selection

/-!
# Types in parentheses

The type of an event is compiled inside of a group that captures nothing. That gives what the type means alone, unless
the type sets flags for the whole pattern, closes a parenthesis that it has not opened, or counts beyond a limit.
-/

namespace StateMachine.Pattern

open Reading

/-! ## Tokens -/

/-- A pattern in a group that captures nothing. -/
def enclosed (pattern : List Char) : List Char := ['(', '?', ':'] ++ (pattern ++ [')'])

theorem extends_tokensFrom (k : Nat) (pattern : List Char) (h : pattern ≠ ['\\']) (j : Nat) :
    Extends (tokensFrom k pattern) (tokensFrom j (pattern ++ [')'])) := by
  have hdangling {c : Char} (hc : c ≠ '\\') (k : Nat) : Token.isDangling ⟨[c], k⟩ = false := by
    simp [Token.isDangling, hc]
  -- A backslash at the very end takes the closing parenthesis with it.
  have hlast (t u : Token) (hchars : t.chars = u.chars) (ht : t.isDangling = false) (k j : Nat) :
      Extends (t :: tokensFrom k ['\\']) (u :: tokensFrom j ['\\', ')']) :=
    .escaped t u ⟨['\\'], k⟩ ⟨['\\', ')'], j⟩ hchars ht rfl rfl
  induction k, pattern using tokensFrom.induct generalizing j with
  | case1 k => exact .closed ⟨[')'], j⟩ rfl
  | case2 k c =>
    have hc : c ≠ '\\' := fun hc => h (by rw [hc])
    have htokens : tokensFrom j ([c] ++ [')']) = ⟨[c], j⟩ :: tokensFrom (j + 1) [')'] := by simp [tokensFrom, hc]
    rw [htokens]
    exact .cons ⟨[c], k⟩ ⟨[c], j⟩ rfl (hdangling hc k) (.closed ⟨[')'], j + 1⟩ rfl)
  | case3 k c d rest hc ih =>
    obtain rfl : c = '\\' := by simpa using hc
    have htokens (i : Nat) (rest : List Char) :
        tokensFrom i ('\\' :: d :: rest) = ⟨['\\', d], i⟩ :: tokensFrom (i + 2) rest := by simp [tokensFrom]
    rw [List.cons_append, List.cons_append, htokens, htokens]
    by_cases hrest : rest = ['\\']
    · exact hrest ▸ hlast ⟨['\\', d], k⟩ ⟨['\\', d], j⟩ rfl rfl (k + 2) (j + 2)
    · exact .cons ⟨['\\', d], k⟩ ⟨['\\', d], j⟩ rfl rfl (ih hrest (j + 2))
  | case4 k c d rest hc ih =>
    have hc : c ≠ '\\' := by simpa using hc
    have htokens (i : Nat) (rest : List Char) :
        tokensFrom i (c :: d :: rest) = ⟨[c], i⟩ :: tokensFrom (i + 1) (d :: rest) := by simp [tokensFrom, hc]
    rw [List.cons_append, List.cons_append, htokens, htokens]
    by_cases hrest : d :: rest = ['\\']
    · rw [← List.cons_append, hrest]
      exact hlast ⟨[c], k⟩ ⟨[c], j⟩ rfl (hdangling hc k) (k + 1) (j + 1)
    · exact .cons ⟨[c], k⟩ ⟨[c], j⟩ rfl (hdangling hc k) (ih hrest (j + 1))

/-! ## The group around a pattern -/

section
variable {p q q' : Nat} {rest : List Token} {r : Reader}

theorem opening_unmarked (start : Nat) (hr : r.tokens = ⟨['?'], q⟩ :: ⟨[':'], q'⟩ :: rest)
    (hrest : rest.head?.any Token.isDangling = false) :
    opening start r = .ok (.flagged [] [], { r with tokens := rest }) := by
  have hmark : accept '?' r = .ok (true, { r with tokens := ⟨[':'], q'⟩ :: rest }) := by
    rw [accept_of_next (by rw [hr]; rfl), bind_of_ok (next_cons hr rfl)]
    rfl
  rw [opening_eq, bind_of_ok hmark]
  exact bind_of_ok (next_cons (r := { r with tokens := ⟨[':'], q'⟩ :: rest }) rfl hrest)

/-- What follows after the group around a pattern. -/
def afterGroup (fuel : Nat) (scope : Scope) (body : List Node) : Reading (List Node) := do
  let items ← sequence fuel scope [.group none [] [] body]
  return Node.join (← afterItems (fuel + 1) scope items)

/-- A group that captures nothing and sets no flags is read as its body. -/
theorem afterOpening_unmarked (k : Nat) (scope : Scope) (items : List Node) (hverbose : scope.verbose = false) :
    afterOpening (sequence (k + 2)) (groupBody (k + 2) scope) scope items p (.flagged [] []) = (do
      let body ← expression (k + 1) ⟨false, false, false⟩
      closeParen p
      sequence (k + 2) scope (.group none [] [] body :: items)) := by
  obtain ⟨verbose, top, first⟩ := scope
  obtain rfl : verbose = false := hverbose
  have hgroup : groupBody (k + 2) ⟨false, top, first⟩ p (.flagged [] []) = (do
      let body ← expression (k + 1) ⟨false, false, false⟩
      closeParen p
      return .group none [] [] body) := rfl
  rw [afterOpening, hgroup]
  · simp only [bind_assoc, pure_bind]
  · intro h
    cases h
  · intro _ h
    cases h

theorem sequence_unmarked (k : Nat) (scope : Scope) (hverbose : scope.verbose = false)
    (hr : r.tokens = ⟨['('], p⟩ :: ⟨['?'], q⟩ :: ⟨[':'], q'⟩ :: rest)
    (hrest : rest.head?.any Token.isDangling = false) :
    sequence (k + 3) scope [] r = (do
      let body ← expression (k + 1) ⟨false, false, false⟩
      closeParen p
      sequence (k + 2) scope [.group none [] [] body]) { r with tokens := rest } := by
  have hopening := opening_unmarked (r := { r with tokens := ⟨['?'], q⟩ :: ⟨[':'], q'⟩ :: rest }) p rfl hrest
  have htoken : afterToken (sequence (k + 2)) (groupBody (k + 2) scope) scope [] p ⟨['('], p⟩ =
      opening p >>= afterOpening (sequence (k + 2)) (groupBody (k + 2) scope) scope [] p := by
    simp [afterToken, hverbose]
  rw [sequence_cons _ _ _ hr (by rw [Reader.stops, hr]; rfl) rfl, htoken]
  exact (bind_of_ok hopening).trans (congrFun (afterOpening_unmarked k scope [] hverbose) _)

theorem expression_unmarked (k : Nat) (scope : Scope) (hverbose : scope.verbose = false)
    (hr : r.tokens = ⟨['('], p⟩ :: ⟨['?'], q⟩ :: ⟨[':'], q'⟩ :: rest)
    (hrest : rest.head?.any Token.isDangling = false) :
    expression (k + 5) scope r = (do
      let body ← expression (k + 1) ⟨false, false, false⟩
      closeParen p
      afterGroup (k + 2) scope body) { r with tokens := rest } := by
  rw [expression, alternatives_succ, bind_assoc, bind_eq_bind (sequence_unmarked k scope hverbose hr hrest)]
  simp only [bind_assoc]
  rfl

theorem afterGroup_ended (k : Nat) (scope : Scope) (body : List Node) (hr : r.tokens = []) :
    afterGroup (k + 1) scope body r = .ok (body, r) := by
  have hstops : r.stops = true := by rw [Reader.stops, hr]; rfl
  have hitems : sequence (k + 1) scope [.group none [] [] body] r = .ok (body, r) := by
    rw [sequence_stopped _ _ _ hstops]
    simp [Node.ungrouped]
  rw [afterGroup, bind_of_ok hitems, bind_of_ok (afterItems_ended _ scope body hr)]
  rfl

end

/-! ## Whole patterns -/

/-- A reader of a whole pattern. -/
def Reader.start (pattern : List Char) : Reader := { tokens := tokensFrom 0 pattern, size := pattern.length }

/-- What becomes of the nodes of a pattern that was read to the end. -/
def Reader.verdict (r : Reader) (nodes : List Node) : Except Failure Expression :=
  match r.conditions.find? fun (index, _) => r.groups < index with
  | some (index, place) => throw (.wrong ⟨s!"invalid group reference {index}", some place⟩)
  | none =>
    match defectOf? (r.flags.contains .template) nodes with
    | some message => throw (.wrong ⟨message, none⟩)
    | none => return ⟨nodes, r.flags, widthOf r.closed nodes⟩

theorem Reader.verdict_of_sound {r : Reader} {nodes : List Node} (hconditions : r.conditions = [])
    (hsound : defectOf? (r.flags.contains .template) nodes = none) :
    r.verdict nodes = .ok ⟨nodes, r.flags, widthOf r.closed nodes⟩ := by
  rw [Reader.verdict, hconditions, List.find?_nil]
  dsimp only
  rw [hsound]
  rfl

/-- Readers that know the same come to one verdict, but for places. -/
theorem Reader.Alike.verdict {r s : Reader} (h : r.Alike s) (nodes : List Node) :
    (∃ e, r.verdict nodes = .ok e ∧ s.verdict nodes = .ok e) ∨
      (∃ e, r.verdict nodes = .error e) ∧ ∃ e, s.verdict nodes = .error e := by
  have hfind (r : Reader) : (r.conditions.find? fun c => r.groups < c.1).map (·.1) =
      (r.conditions.map (·.1)).find? fun index => r.groups < index := by
    rw [List.find?_map]
    rfl
  have hsame := hfind r
  rw [h.conditions, h.groups, ← hfind s] at hsame
  unfold Reader.verdict
  rw [h.groups, h.flags, h.closed]
  cases hr : r.conditions.find? fun c => s.groups < c.1 with
  | some c =>
    rw [hr] at hsame
    obtain ⟨d, hd, -⟩ := Option.map_eq_some_iff.mp hsame.symm
    rw [hd]
    exact Or.inr ⟨⟨_, rfl⟩, _, rfl⟩
  | none =>
    rw [hr, eq_comm, Option.map_none, Option.map_eq_none_iff] at hsame
    rw [hsame]
    dsimp only
    split
    · exact Or.inr ⟨⟨_, rfl⟩, _, rfl⟩
    · exact Or.inl ⟨_, rfl, rfl⟩

theorem Reader.verdict_flags {r : Reader} {nodes : List Node} {e : Expression} (h : r.verdict nodes = .ok e) :
    e.flags = r.flags := by
  unfold Reader.verdict at h
  split at h
  · cases h
  · split at h
    · cases h
    · cases h
      rfl

/-- Judges the nodes of a whole pattern. -/
def conclude (nodes : List Node) : Reading Expression := do
  let r ← get
  match r.conditions.find? fun (index, _) => r.groups < index with
  | some (index, place) => throw (.wrong ⟨s!"invalid group reference {index}", some place⟩)
  | none =>
    match defectOf? (r.flags.contains .template) nodes with
    | some message => throw (.wrong ⟨message, none⟩)
    | none => return ⟨nodes, r.flags, widthOf r.closed nodes⟩

theorem conclude_apply (nodes : List Node) (r : Reader) :
    conclude nodes r = (r.verdict nodes).map fun e => (e, r) := by
  rw [conclude, bind_of_ok (x := get) rfl, Reader.verdict]
  cases r.conditions.find? fun (index, _) => r.groups < index with
  | some c => rfl
  | none => cases defectOf? (r.flags.contains .template) nodes <;> rfl

/-- What follows after the nodes of a whole pattern. -/
def finish (nodes : List Node) : Reading Expression := do
  if flagsClash (← get).flags then
    throw (.wrong ⟨"ASCII and UNICODE flags are incompatible", none⟩)
  else if (← peek).isSome then fail "unbalanced parenthesis"
  else conclude nodes

theorem finish_apply {r : Reader} (nodes : List Node) (h : flagsClash r.flags = false) : finish nodes r =
    (do if (← peek).isSome then fail "unbalanced parenthesis" else conclude nodes : Reading Expression) r := by
  rw [finish, bind_of_ok (x := get) rfl, h]
  rfl

theorem finish_open {r : Reader} (nodes : List Node) (hflags : flagsClash r.flags = false) (h : r.tokens ≠ []) :
    ∃ e, finish nodes r = .error (.wrong e) ∧ e.message = "unbalanced parenthesis" := by
  obtain ⟨t, rest, htokens⟩ := List.exists_cons_of_ne_nil h
  have hpeek : peek r = .ok (some t, r) := by
    change Except.ok (r.tokens.head?, r) = _
    rw [htokens]
    rfl
  rw [finish_apply nodes hflags, bind_of_ok hpeek]
  exact ⟨_, rfl, rfl⟩

theorem finish_ended {r : Reader} (nodes : List Node) (hflags : flagsClash r.flags = false) (h : r.tokens = []) :
    finish nodes r = (r.verdict nodes).map fun e => (e, r) := by
  have hpeek : peek r = .ok (none, r) := by
    change Except.ok (r.tokens.head?, r) = _
    rw [h]
    rfl
  rw [finish_apply nodes hflags, bind_of_ok hpeek, Option.isSome_none, if_neg Bool.false_ne_true, conclude_apply]

theorem read_eq {pattern : List Char} (h : (tokensFrom 0 pattern).head?.any Token.isDangling = false) :
    read pattern = ((expression (4 * (tokensFrom 0 pattern).length + 8) ⟨false, true, true⟩ >>= finish)
      (.start pattern)).map (·.1) := by
  have hcheck : checkDangling (.start pattern) = .ok ((), .start pattern) := checkDangling_ok h
  have hall : readAll = (do
    checkDangling
    let r ← get
    let nodes ← expression (4 * r.tokens.length + 8) ⟨false, true, true⟩
    finish nodes) := rfl
  change (readAll (.start pattern)).map (·.1) = _
  rw [hall, bind_of_ok hcheck, bind_of_ok (x := get) rfl]
  rfl

theorem Reader.Alike.ended {r s : Reader} (h : r.Alike s) : r.Alike { s with tokens := [] } :=
  ⟨h.groups, h.closed, h.names, h.innerGroups, h.conditions, h.flags⟩

/-- Where a pattern ends that is read alone, the closing parenthesis is taken. -/
theorem Reader.Beside.closeParen_of_ended {r s : Reader} (h : r.Beside s) (hended : r.tokens = []) (start : Nat) :
    closeParen start s = .ok ((), { s with tokens := [] }) := by
  cases h.nexts with
  | ended u hr hs hu hy =>
    rw [closeParen_of_next start (by rw [hs, List.head?_cons, Option.any_some, Token.isOneOf, Token.char?, hu]; rfl),
      bind_of_ok hy]
    rfl
  | both t u r' s' hr => simp [hended] at hr
  | dangling t u s' hr => simp [hended] at hr

theorem finish_flags {nodes : List Node} {r s : Reader} {e : Expression} (h : finish nodes r = .ok (e, s)) :
    e.flags = r.flags := by
  have hclash : flagsClash r.flags = false := by
    rw [finish, bind_of_ok (x := get) rfl] at h
    split at h
    case isTrue => cases h
    case isFalse hclash => exact Bool.eq_false_iff.mpr hclash
  by_cases hended : r.tokens = []
  · rw [finish_ended nodes hclash hended] at h
    cases hverdict : r.verdict nodes with
    | error e' =>
      rw [hverdict] at h
      cases h
    | ok e' =>
      rw [hverdict] at h
      cases h
      exact Reader.verdict_flags hverdict
  · obtain ⟨e', he', -⟩ := finish_open nodes hclash hended
    rw [he'] at h
    cases h

/-- A reader of a pattern in a group, after the beginning of the group. -/
def Reader.startInside (pattern : List Char) : Reader :=
  { tokens := tokensFrom 3 (pattern ++ [')']), size := (enclosed pattern).length }

theorem read_enclosed_eq {pattern : List Char} (h : pattern ≠ ['\\']) :
    read (enclosed pattern) = ((do
      let body ← expression (4 * (tokensFrom 3 (pattern ++ [')'])).length + 16) ⟨false, false, false⟩
      closeParen 0
      let nodes ← afterGroup (4 * (tokensFrom 3 (pattern ++ [')'])).length + 17) ⟨false, true, true⟩ body
      finish nodes : Reading Expression) (.startInside pattern)).map (·.1) := by
  have htokens : tokensFrom 0 (enclosed pattern) =
      ⟨['('], 0⟩ :: ⟨['?'], 1⟩ :: ⟨[':'], 2⟩ :: tokensFrom 3 (pattern ++ [')']) := by
    obtain ⟨c, rest, h⟩ := List.exists_cons_of_ne_nil (show pattern ++ [')'] ≠ [] by simp)
    rw [enclosed, h]
    simp [tokensFrom]
  have hfuel : 4 * (tokensFrom 0 (enclosed pattern)).length + 8 =
      4 * (tokensFrom 3 (pattern ++ [')'])).length + 15 + 5 := by
    rw [htokens, List.length_cons, List.length_cons, List.length_cons]
    omega
  have hexpression := expression_unmarked (r := .start (enclosed pattern))
    (4 * (tokensFrom 3 (pattern ++ [')'])).length + 15) ⟨false, true, true⟩ rfl htokens
    (extends_tokensFrom 0 pattern h 3).head.2
  rw [read_eq (by rw [htokens]; rfl), hfuel, bind_eq_bind hexpression]
  simp only [bind_assoc]
  rfl

/-- What a pattern is read as alone, and in a group: the same, or it cannot be read alone, or it sets flags. -/
inductive Encloses (alone inside : Except Failure Expression) : Prop
  | same (e : Expression) (halone : alone = .ok e) (hflags : e.flags = []) (hinside : inside = .ok e)
  | unbalanced (e : PatternError) (halone : alone = .error (.wrong e)) (hmessage : e.message = "unbalanced parenthesis")
  | refused (hflags : ∀ e, alone = .ok e → e.flags ≠ []) (e : Failure) (hinside : inside = .error e)

section
variable {alone inside : Except Failure Expression} {k : Nat} {scope : Scope} {nodes : List Node}
  {r s : Reader} {x : Reading (List Node)}

/-- Both readers have read the same, up to a parenthesis that was not opened or the end. -/
theorem encloses_of_beside (hside : r.Beside s) (halone : alone = (finish nodes r).map (·.1))
    (hinside : inside = ((do
      closeParen 0
      let nodes ← afterGroup (k + 1) scope nodes
      finish nodes : Reading Expression) s).map (·.1)) : Encloses alone inside := by
  have hclash : flagsClash r.flags = false := hside.unset ▸ rfl
  by_cases hended : r.tokens = []
  case neg =>
    obtain ⟨e, he, hmessage⟩ := finish_open nodes hclash hended
    rw [he] at halone
    exact .unbalanced e halone hmessage
  rw [finish_ended nodes hclash hended] at halone
  rw [bind_of_ok (hside.closeParen_of_ended hended 0), bind_of_ok (afterGroup_ended _ _ _ rfl),
    finish_ended nodes (hside.flags ▸ hclash) rfl] at hinside
  rcases (hside.toAlike.ended).verdict nodes with ⟨e, hr, hs⟩ | ⟨⟨e, hr⟩, e', hs⟩
  · rw [hr] at halone
    rw [hs] at hinside
    exact .same e halone ((Reader.verdict_flags hr).trans hside.unset) hinside
  · rw [hr] at halone
    rw [hs] at hinside
    exact .refused (fun e h => nomatch halone.symm.trans h) e' hinside

/-- The closing parenthesis was taken for something else. -/
theorem encloses_of_stranded {y : Reading (List Node)} {f : List Node → Reading Expression}
    (hfail : ∃ e, x r = .error e) (hstranded : Stranded (y s)) (halone : alone = ((x >>= finish) r).map (·.1))
    (hinside : inside = ((do
      let nodes ← y
      closeParen 0
      f nodes : Reading Expression) s).map (·.1)) : Encloses alone inside := by
  obtain ⟨e, he⟩ := hfail
  rw [bind_of_error he] at halone
  have hrefused {e : Failure} (h : inside = .error e) : Encloses alone inside :=
    .refused (fun e h => nomatch halone.symm.trans h) e h
  rcases hbody : y s with e | ⟨body, t⟩
  · rw [bind_of_error hbody] at hinside
    exact hrefused hinside
  · obtain ⟨e, he⟩ := closeParen_error 0 (hstranded body t hbody).head
    rw [bind_of_ok hbody, bind_of_error he] at hinside
    exact hrefused hinside

/-- Flags that are set stay set. -/
theorem flags_of_finish (hset : ∀ nodes t, x r = .ok (nodes, t) → t.flags ≠ []) {e : Expression}
    (h : ((x >>= finish) r).map (·.1) = .ok e) : e.flags ≠ [] := by
  cases hrun : (x >>= finish) r with
  | error e =>
    rw [hrun] at h
    cases h
  | ok result =>
    rw [hrun] at h
    cases h
    obtain ⟨nodes, t, hnodes, hfinish⟩ := bind_eq_ok_iff.mp (show _ = Except.ok (result.1, result.2) from hrun)
    rw [finish_flags hfinish]
    exact hset nodes t hnodes

end

/-- A pattern is read in a group as it is read alone, unless it cannot be read alone, or sets flags. -/
theorem read_enclosed (pattern : List Char) : Encloses (read pattern) (read (enclosed pattern)) := by
  by_cases hlone : pattern = ['\\']
  · subst hlone
    exact .refused (fun e h => nomatch h) _ rfl
  have hextends := extends_tokensFrom 0 pattern hlone 3
  have hside : (Reader.start pattern).Beside (.startInside pattern) := ⟨⟨rfl, rfl, rfl, rfl, rfl, rfl⟩, rfl, hextends⟩
  have hends := (pairedAt (4 * (tokensFrom 0 pattern).length + 8)).expression _ ⟨false, true, true⟩
    ⟨false, false, false⟩ _ _ ⟨rfl, rfl, rfl, fun _ => rfl⟩ hside (Nat.add_lt_add_left (by decide) _)
    (show _ < 4 * (tokensFrom 3 (pattern ++ [')'])).length + 16 from Nat.add_lt_add_left (by decide) _)
  have halone := read_eq hextends.head.1
  have hinside := read_enclosed_eq hlone
  rcases hends with hmeet | ⟨-, hflags, e, he⟩
  · cases hmeet with
    | same nodes r s hside hx hy =>
      rw [bind_of_ok hx] at halone
      rw [bind_of_ok hy] at hinside
      exact encloses_of_beside hside halone hinside
    | lost hx hy hfail => exact encloses_of_stranded (hfail rfl) hy halone hinside
  · rw [bind_of_error he] at hinside
    exact .refused (fun expression h => flags_of_finish hflags (halone ▸ h)) e hinside

end StateMachine.Pattern

namespace StateMachine

open Pattern

/-! ## Types of events -/

/-- A type that sets flags for the whole pattern. -/
def SetsFlagsForAll (type : String) : Prop := ∃ e, Pattern.read type.toList = .ok e ∧ e.flags ≠ []

/-- A type that is wrong alone because it closes a parenthesis that it has not opened. -/
def ClosesTooMuch (type : String) : Prop :=
  ∃ e, Pattern.read type.toList = .error (.wrong e) ∧ e.message = "unbalanced parenthesis"

/-- The type of an event is refused. -/
def RefusesType (eventId type : String) : Prop :=
  ∃ e, compileEventType eventId (some type) = .error (.invalidEventType eventId (some type) e)

/-- A number in the type of an event is beyond a limit, which no error of the event says. -/
def ExceedsLimit (eventId type : String) : Prop :=
  ∃ x, compileEventType eventId (some type) = .error (.excessiveNumber x)

/-- The type of an event means what it means alone: it is refused if it is no pattern, and else matches the same. -/
structure MeansItself (eventId type : String) : Prop where
  refuses_iff : RefusesType eventId type ↔ ∃ e, CompiledPattern.compile type = .error e
  matches_eq : ∀ p, CompiledPattern.compile type = .ok p →
    ∃ q, compileEventType eventId (some type) = .ok q ∧ ∀ text, q.matchesAll text = p.matchesAll text

/-- The type of an event in parentheses. -/
def wrapped (type : String) : String := s!"(?:{type})"

theorem mapError_eq_ok_iff {ε ε' α : Type} (f : ε → ε') (x : Except ε α) (a : α) :
    x.mapError f = .ok a ↔ x = .ok a := by
  cases x with
  | error e => exact iff_of_false (fun h => nomatch h) fun h => nomatch h
  | ok b => exact ⟨fun h => congrArg _ (Except.ok.inj h), fun h => congrArg _ (Except.ok.inj h)⟩

theorem mapError_eq_error_iff {ε ε' α : Type} (f : ε → ε') (x : Except ε α) (e' : ε') :
    x.mapError f = .error e' ↔ ∃ e, x = .error e ∧ f e = e' := by
  cases x with
  | error e =>
    constructor
    · exact fun h => ⟨e, rfl, Except.error.inj h⟩
    · rintro ⟨_, h, rfl⟩
      exact congrArg (fun e => Except.error (f e)) (Except.error.inj h)
  | ok b => exact iff_of_false (fun h => nomatch h) fun ⟨_, h, _⟩ => nomatch h

section
variable {eventId type : String}

theorem compileEventType_eq (eventId : String) (type : Option String) : compileEventType eventId type =
    (CompiledPattern.compile (wrapped (type.getD ""))).mapError (.ofFailure eventId type (wrapped (type.getD ""))) := rfl

theorem compileEventType_eq_ok_iff (eventId : String) (type : Option String) (p : CompiledPattern) :
    compileEventType eventId type = .ok p ↔ CompiledPattern.compile (wrapped (type.getD "")) = .ok p := by
  rw [compileEventType_eq, mapError_eq_ok_iff]

theorem compileEventType_eq_error_iff (eventId : String) (type : Option String) (fault : Fault) :
    compileEventType eventId type = .error fault ↔
      ∃ failure, CompiledPattern.compile (wrapped (type.getD "")) = .error failure ∧
        Fault.ofFailure eventId type (wrapped (type.getD "")) failure = fault := by
  rw [compileEventType_eq, mapError_eq_error_iff]

/-- A type that fails to compile is refused where it is wrong, and nowhere else. -/
theorem compileEventType_refuses_iff (eventId : String) (type : Option String) :
    (∃ e, compileEventType eventId type = .error (.invalidEventType eventId type e)) ↔
      ∃ e, CompiledPattern.compile (wrapped (type.getD "")) = .error (.wrong e) := by
  simp only [compileEventType_eq_error_iff]
  constructor
  · rintro ⟨_, failure, hfails, heq⟩
    cases failure with
    | wrong e => exact ⟨e, hfails⟩
    | excess x => cases heq
  · exact fun ⟨e, hfails⟩ => ⟨_, .wrong e, hfails, rfl⟩

theorem compileEventType_exceeds_iff (eventId : String) (type : Option String) (x : Excess) :
    compileEventType eventId type = .error (.excessiveNumber x) ↔
      CompiledPattern.compile (wrapped (type.getD "")) = .error (.excess x) := by
  rw [compileEventType_eq_error_iff]
  constructor
  · rintro ⟨failure, hfails, heq⟩
    cases failure with
    | wrong e => cases heq
    | excess y => rwa [← Fault.excessiveNumber.inj heq]
  · exact fun hfails => ⟨.excess x, hfails, rfl⟩

/-- There is no third way to fail. -/
theorem compileEventType_error {eventId : String} {type : Option String} {fault : Fault}
    (h : compileEventType eventId type = .error fault) :
    (∃ e, fault = .invalidEventType eventId type e) ∨ ∃ x, fault = .excessiveNumber x := by
  obtain ⟨failure, _, rfl⟩ := (compileEventType_eq_error_iff _ _ _).mp h
  cases failure with
  | wrong e => exact Or.inl ⟨_, rfl⟩
  | excess x => exact Or.inr ⟨x, rfl⟩

theorem toList_wrapped (type : String) : (wrapped type).toList = enclosed type.toList := by
  change ("(?:" ++ type ++ ")").toList = _
  rw [String.toList_append, String.toList_append, List.append_assoc]
  rfl

theorem compile_of_ok {e : Expression} (h : Pattern.read type.toList = .ok e) :
    CompiledPattern.compile type =
      .ok ⟨programOf ((Mode.change {} [.ignoreCase] []).change e.flags []) none e.nodes, e.width.1⟩ := by
  rw [CompiledPattern.compile, h]

theorem compile_of_error {failure : Failure} (h : Pattern.read type.toList = .error failure) :
    CompiledPattern.compile type = .error failure := by
  rw [CompiledPattern.compile, h]

theorem compileEventType_of_ok {e : Expression} (h : Pattern.read (enclosed type.toList) = .ok e) :
    compileEventType eventId (some type) =
      .ok ⟨programOf ((Mode.change {} [.ignoreCase] []).change e.flags []) none e.nodes, e.width.1⟩ :=
  (compileEventType_eq_ok_iff _ _ _).mpr (compile_of_ok ((toList_wrapped type).symm ▸ h))

theorem refusesType_of_wrong {e : PatternError} (h : Pattern.read (enclosed type.toList) = .error (.wrong e)) :
    RefusesType eventId type :=
  (compileEventType_refuses_iff _ _).mpr ⟨e, compile_of_error ((toList_wrapped type).symm ▸ h)⟩

theorem exceedsLimit_of_excess {x : Excess} (h : Pattern.read (enclosed type.toList) = .error (.excess x)) :
    ExceedsLimit eventId type :=
  ⟨x, (compileEventType_exceeds_iff _ _ _).mpr (compile_of_error ((toList_wrapped type).symm ▸ h))⟩

theorem compileEventType_ne_ok {failure : Failure} (h : Pattern.read (enclosed type.toList) = .error failure)
    (p : CompiledPattern) : compileEventType eventId (some type) ≠ .ok p := fun hp =>
  nomatch (compile_of_error ((toList_wrapped type).symm ▸ h)).symm.trans ((compileEventType_eq_ok_iff _ _ _).mp hp)

theorem not_refusesType_of_ok {p : CompiledPattern} (h : compileEventType eventId (some type) = .ok p) :
    ¬ RefusesType eventId type := fun ⟨_, he⟩ => nomatch h.symm.trans he

theorem RefusesType.not_exceedsLimit (h : RefusesType eventId type) : ¬ ExceedsLimit eventId type := by
  rintro ⟨x, hx⟩
  obtain ⟨e, he⟩ := h
  cases he.symm.trans hx

/-- Reading fails in one of two ways, and only one of them refuses the type. -/
theorem refusesType_iff_not_exceedsLimit {failure : Failure}
    (h : Pattern.read (enclosed type.toList) = .error failure) :
    RefusesType eventId type ↔ ¬ ExceedsLimit eventId type := by
  refine ⟨RefusesType.not_exceedsLimit, fun hlimit => ?_⟩
  cases failure with
  | wrong e => exact refusesType_of_wrong h
  | excess x => exact absurd (exceedsLimit_of_excess h) hlimit

/-- An event without a type has the empty one, and only errors tell the two apart. -/
theorem MeansItself.compileEventType_eq_ok {type : Option String} {p : CompiledPattern}
    (h : MeansItself eventId (type.getD "")) (hp : CompiledPattern.compile (type.getD "") = .ok p) :
    ∃ q, compileEventType eventId type = .ok q ∧ ∀ text, q.matchesAll text = p.matchesAll text := by
  obtain ⟨q, hq, hmatches⟩ := h.matches_eq p hp
  exact ⟨q, (compileEventType_eq_ok_iff _ _ _).mpr ((compileEventType_eq_ok_iff _ (some _) _).mp hq), hmatches⟩

theorem MeansItself.compileEventType_eq_error {type : Option String} {failure : Failure}
    (h : MeansItself eventId (type.getD "")) (hfails : CompiledPattern.compile (type.getD "") = .error failure) :
    ∃ e, compileEventType eventId type = .error (.invalidEventType eventId type e) :=
  (compileEventType_refuses_iff _ _).mpr
    ((compileEventType_refuses_iff _ (some _)).mp (h.refuses_iff.mpr ⟨failure, hfails⟩))

theorem MeansItself.of_eq {p : CompiledPattern} (h : compileEventType eventId (some type) = .ok p)
    (h' : CompiledPattern.compile type = .ok p) : MeansItself eventId type where
  refuses_iff := iff_of_false (not_refusesType_of_ok h) fun ⟨_, he⟩ => nomatch h'.symm.trans he
  matches_eq p' hp := by
    cases h'.symm.trans hp
    exact ⟨p, h, fun _ => rfl⟩

/-- Where a type is wrong alone, all that counts is that it is refused. -/
theorem meansItself_iff_of_error {failure : Failure} (h : Pattern.read type.toList = .error failure) :
    MeansItself eventId type ↔ RefusesType eventId type := by
  have hcompile := compile_of_error h
  refine ⟨fun hmeans => hmeans.refuses_iff.mpr ⟨failure, hcompile⟩, fun hrefused => ?_⟩
  exact ⟨iff_of_true hrefused ⟨failure, hcompile⟩, fun p hp => nomatch hp.symm.trans hcompile⟩

theorem exists_of_isSome_toOption {ε α : Type} {x : Except ε α} (h : x.toOption.isSome = true) : ∃ a, x = .ok a := by
  cases x with
  | error e => cases h
  | ok a => exact ⟨a, rfl⟩

theorem exists_of_isNone_toOption {ε α : Type} {x : Except ε α} (h : x.toOption.isNone = true) :
    ∃ e, x = .error e := by
  cases x with
  | error e => exact ⟨e, rfl⟩
  | ok a => cases h

theorem read_eq_excess {pattern : List Char} {x : Excess}
    (h : (match Pattern.read pattern with | .error (.excess x) => some x | _ => none) = some x) :
    Pattern.read pattern = .error (.excess x) := by
  rcases hread : Pattern.read pattern with (e | y) | e <;> rw [hread] at h <;> cases h
  rfl

end

end StateMachine
