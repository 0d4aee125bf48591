import StateMachine.Description

/-!
# Parts that blend

An arc without an id of its own is given one: its origin, event, target and guard, with two underscores between them.
Nothing is escaped, so that other parts may give the same text. This happens exactly if, after some parts that are the
same, one part goes on over the separator after the other, over all or over half of it.
-/

namespace StateMachine.Description

/-! ## Two cuts of a text -/

/-- A text is cut after a part, and the same text is cut after a longer part. -/
inductive Straddles (part rest longer rest' : String) : Prop
  | whole (tail : String) (hlonger : longer = part ++ "__" ++ tail) (hrest : rest = tail ++ "__" ++ rest')
  | half (hlonger : longer = part ++ "_") (hrest : rest = "_" ++ rest')

section
variable {part rest longer rest' : String}

theorem Straddles.text_eq (h : Straddles part rest longer rest') :
    part ++ "__" ++ rest = longer ++ "__" ++ rest' := by
  cases h with
  | whole tail hlonger hrest => simp only [hlonger, hrest, String.append_assoc]
  | half hlonger hrest =>
    have hmiddle : "__" ++ ("_" ++ rest') = "_" ++ ("__" ++ rest') := by simp [← String.toList_inj]
    simp only [hlonger, hrest, String.append_assoc, hmiddle]

/-- What goes on after the first separator ends in an underscore or holds a separator. -/
theorem straddles_of_extends (more : List Char) (hlonger : longer.toList = part.toList ++ more)
    (h : '_' :: '_' :: rest.toList = more ++ '_' :: '_' :: rest'.toList) :
    (part = longer ∧ rest = rest') ∨ Straddles part rest longer rest' := by
  match more with
  | [] =>
    simp only [List.nil_append, List.cons.injEq, true_and, List.append_nil, String.toList_inj] at h hlonger
    exact Or.inl ⟨hlonger.symm, h⟩
  | [_] =>
    simp only [List.cons_append, List.nil_append, List.cons.injEq, true_and] at h
    obtain ⟨rfl, h⟩ := h
    exact Or.inr (.half (by simp [← String.toList_inj, hlonger]) (by simp [← String.toList_inj, h]))
  | _ :: _ :: tail =>
    simp only [List.cons_append, List.cons.injEq] at h
    obtain ⟨rfl, rfl, h⟩ := h
    exact Or.inr (.whole (String.ofList tail) (by simp [← String.toList_inj, hlonger])
      (by simp [← String.toList_inj, h]))

theorem cut_eq_iff : part ++ "__" ++ rest = longer ++ "__" ++ rest' ↔
    (part = longer ∧ rest = rest') ∨ Straddles part rest longer rest' ∨ Straddles longer rest' part rest := by
  constructor
  · intro h
    rw [← String.toList_inj] at h
    simp only [String.toList_append, List.append_assoc] at h
    rcases List.append_eq_append_iff.mp h with ⟨more, hlonger, hrest⟩ | ⟨more, hlonger, hrest⟩
    · exact (straddles_of_extends more hlonger hrest).imp_right Or.inl
    · exact (straddles_of_extends more hlonger hrest).imp (And.imp Eq.symm Eq.symm) Or.inr
  · rintro (⟨rfl, rfl⟩ | h | h)
    · rfl
    · exact h.text_eq
    · exact h.text_eq.symm

end

/-! ## Lists of parts -/

/-- Parts with separators between them. -/
def joined (parts : List String) : String := "__".intercalate parts

/-- Two lists of parts are joined to one text although they differ: after parts that are the same, a part of the second
list goes on where a part of the first one ends. -/
inductive Blends : List String → List String → Prop
  | later (part : String) {ps qs : List String} (h : Blends ps qs) : Blends (part :: ps) (part :: qs)
  | whole (part tail : String) {ps qs : List String} (hps : ps ≠ []) (h : joined ps = joined (tail :: qs)) :
      Blends (part :: ps) ((part ++ "__" ++ tail) :: qs)
  | half (part : String) {ps qs : List String} (hps : ps ≠ []) (hqs : qs ≠ []) (h : joined ps = "_" ++ joined qs) :
      Blends (part :: ps) ((part ++ "_") :: qs)

theorem joined_cons (part : String) {ps : List String} (h : ps ≠ []) :
    joined (part :: ps) = part ++ "__" ++ joined ps := String.intercalate_cons_of_ne_nil h

theorem joined_append_cons (part tail : String) (qs : List String) :
    joined ((part ++ "__" ++ tail) :: qs) = part ++ "__" ++ joined (tail :: qs) := by
  rw [joined, String.intercalate_cons_append, joined]

theorem Blends.ne_nil {ps qs : List String} (h : Blends ps qs) : ps ≠ [] ∧ qs ≠ [] := by
  cases h <;> simp

theorem Blends.joined_eq {ps qs : List String} (h : Blends ps qs) : joined ps = joined qs := by
  induction h with
  | later part h ih => rw [joined_cons part h.ne_nil.1, joined_cons part h.ne_nil.2, ih]
  | whole part tail hps h => rw [joined_append_cons, joined_cons part hps, h]
  | half part hps hqs h =>
    rw [joined_cons part hps, joined_cons _ hqs]
    exact Straddles.text_eq (.half rfl h)

/-- A part that straddles the cut after a part of another list. -/
theorem blends_of_straddles {p q : String} {ps qs : List String} (hps : ps ≠ []) (hqs : qs ≠ [])
    (h : Straddles p (joined ps) q (joined qs)) : Blends (p :: ps) (q :: qs) := by
  cases h with
  | whole tail hlonger hrest =>
    rw [hlonger]
    exact .whole p tail hps (hrest.trans (joined_cons tail hqs).symm)
  | half hlonger hrest =>
    rw [hlonger]
    exact .half p hps hqs hrest

/-- Several parts against a single one, which holds all of them. -/
theorem blends_singleton {p q : String} {ps : List String} (hps : ps ≠ []) (h : joined (p :: ps) = joined [q]) :
    Blends (p :: ps) [q] := by
  have hq : q = p ++ "__" ++ joined ps := by
    rw [← joined_cons p hps, h]
    exact String.intercalate_singleton.symm
  rw [hq]
  exact .whole p (joined ps) hps String.intercalate_singleton.symm

theorem joined_eq_iff {ps qs : List String} (hps : ps ≠ []) (hqs : qs ≠ []) :
    joined ps = joined qs ↔ ps = qs ∨ Blends ps qs ∨ Blends qs ps := by
  constructor
  · intro h
    induction ps generalizing qs with
    | nil => exact absurd rfl hps
    | cons p ps ih =>
      obtain ⟨q, qs, rfl⟩ := List.exists_cons_of_ne_nil hqs
      by_cases hps' : ps = [] <;> by_cases hqs' : qs = []
      · subst hps' hqs'
        exact Or.inl (congrArg (fun x => [x]) (by simpa [joined] using h))
      · subst hps'
        exact Or.inr (Or.inr (blends_singleton hqs' h.symm))
      · subst hqs'
        exact Or.inr (Or.inl (blends_singleton hps' h))
      · rw [joined_cons p hps', joined_cons q hqs', cut_eq_iff] at h
        rcases h with ⟨rfl, hrest⟩ | h | h
        · rcases ih hps' hqs' hrest with rfl | h | h
          · exact Or.inl rfl
          · exact Or.inr (Or.inl (.later p h))
          · exact Or.inr (Or.inr (.later p h))
        · exact Or.inr (Or.inl (blends_of_straddles hps' hqs' h))
        · exact Or.inr (Or.inr (blends_of_straddles hqs' hps' h))
  · rintro (rfl | h | h)
    · rfl
    · exact h.joined_eq
    · exact h.joined_eq.symm

/-! ## Parts that do not blend -/

/-- A text with two underscores in a row. -/
def HoldsSeparator (s : String) : Prop := ['_', '_'] <:+: s.toList

/-- A part that is told apart from what follows: it holds no separator and does not end like one. -/
def IsPlain (s : String) : Prop := ¬ HoldsSeparator s ∧ s.toList.getLast? ≠ some '_'

instance : DecidablePred HoldsSeparator := fun _ => inferInstanceAs (Decidable (_ <:+: _))

instance : DecidablePred IsPlain := fun _ => inferInstanceAs (Decidable (_ ∧ _))

theorem holdsSeparator_append (part tail : String) : HoldsSeparator (part ++ "__" ++ tail) :=
  ⟨part.toList, tail.toList, by simp⟩

theorem holdsSeparator_joined (part : String) {ps : List String} (h : ps ≠ []) :
    HoldsSeparator (joined (part :: ps)) := by
  rw [joined_cons part h]
  exact holdsSeparator_append part (joined ps)

/-- Lists that blend have a part that is not plain, at a place where the other list goes on. -/
theorem Blends.exists_not_isPlain {ps qs : List String} (h : Blends ps qs) :
    ∃ i q, qs[i]? = some q ∧ i + 1 < ps.length ∧ ¬ IsPlain q := by
  induction h with
  | later part h ih =>
    obtain ⟨i, q, hq, hi, hplain⟩ := ih
    exact ⟨i + 1, q, hq, Nat.succ_lt_succ hi, hplain⟩
  | whole part tail hps h =>
    exact ⟨0, _, rfl, by simpa [List.length_pos_iff] using hps,
      fun hplain => hplain.1 (holdsSeparator_append part tail)⟩
  | half part hps hqs h =>
    exact ⟨0, _, rfl, by simpa [List.length_pos_iff] using hps, fun hplain => hplain.2 (by simp)⟩

/-! ## Ids of arcs -/

/-- The parts of the id that an arc is given. -/
def arcParts (fromId eventId toId : String) (guard : Option String) : List String :=
  [fromId, eventId, toId] ++ guard.toList

theorem arcId_eq_joined (fromId eventId toId : String) (guard : Option String) :
    arcId fromId eventId toId guard = joined (arcParts fromId eventId toId guard) := by
  have hid : arcId fromId eventId toId guard =
      fromId ++ "__" ++ eventId ++ "__" ++ toId ++ (guard.map fun g => "__" ++ g).getD "" := rfl
  rw [hid, arcParts, joined]
  cases guard <;> simp [String.append_assoc]

theorem arcParts_injective {fromId eventId toId fromId' eventId' toId' : String} {guard guard' : Option String}
    (h : arcParts fromId eventId toId guard = arcParts fromId' eventId' toId' guard') :
    fromId = fromId' ∧ eventId = eventId' ∧ toId = toId' ∧ guard = guard' := by
  simp only [arcParts, List.cons_append, List.nil_append, List.cons.injEq] at h
  obtain ⟨rfl, rfl, rfl, h⟩ := h
  refine ⟨rfl, rfl, rfl, ?_⟩
  cases guard <;> cases guard' <;> simp_all

end StateMachine.Description
