import StateMachine.Proofs.History

/-!
# Additions in a row

To add a list of things is to add them one after the other. The first thing that is not welcome ends the addition, and
what was added before it stays added.
-/

namespace StateMachine

namespace Workspace

/-! ## What is not welcome -/

/-- Who has an id that is not free for a thing that comes after others in a list, by the name of its kind: something
the machine has registered, the machine itself under the id it was made with, `#ALL`, or one of the others. -/
inductive Occupant (ws : Workspace) (m : MachineRef) (before : List Candidate) (id : String) : String → Prop
  | registered (held : EntityRef) (h : (ws.machine m).registry.find? id = some held) :
      Occupant ws m before id (ws.kindOf held).name
  | own (h : (ws.machine m).registry.reserved = some id) : Occupant ws m before id "machine"
  | all (h : id = allStateId) : Occupant ws m before id Kind.state.name
  | earlier (s : EntityRef) (hs : .entity s ∈ before) (h : (ws.entity s).id = id) :
      Occupant ws m before id (ws.kindOf s).name

/-- A thing that a machine cannot take after others in a list, and the fault. The id of a thing matters only if it is of
a kind that machines hold. -/
inductive Unwelcome (ws : Workspace) (m : MachineRef) (before : List Candidate) : Candidate → Fault → Prop
  | foreign (typeName : String) : Unwelcome ws m before (.foreign typeName) (.notAddable typeName)
  | unheld (r : EntityRef) (hkind : Machine.holds (ws.kindOf r) = false) :
      Unwelcome ws m before (.entity r) (.notAddable "Entity")
  | occupied (r : EntityRef) (existing : String) (hkind : Machine.holds (ws.kindOf r) = true)
      (hid : Occupant ws m before (ws.entity r).id existing) :
      Unwelcome ws m before (.entity r)
        (.duplicateIdentifier (ws.entity r).id existing (ws.kindOf r).name (ws.machine m).registry.reserved)

/-- Nothing of a list is unwelcome after what comes before it. -/
def Welcome (ws : Workspace) (m : MachineRef) (things : List Candidate) : Prop :=
  ∀ before c after fault, things = before ++ c :: after → ¬ ws.Unwelcome m before c fault

theorem welcome_nil (ws : Workspace) (m : MachineRef) : ws.Welcome m [] :=
  fun before c after _ h => by simp at h

theorem Welcome.left {ws : Workspace} {m : MachineRef} {xs ys : List Candidate} (h : ws.Welcome m (xs ++ ys)) :
    ws.Welcome m xs := by
  rintro before c after fault rfl
  exact h before c (after ++ ys) fault (by simp)

/-- A list that is not welcome has a first thing that is not. -/
theorem exists_first_unwelcome (ws : Workspace) (m : MachineRef) (things : List Candidate)
    (h : ¬ ws.Welcome m things) :
    ∃ before c after fault, things = before ++ c :: after ∧ ws.Welcome m before ∧ ws.Unwelcome m before c fault := by
  induction things using List.reverseRecOn with
  | nil => exact absurd (welcome_nil ws m) h
  | append_singleton init last ih =>
    by_cases hinit : ws.Welcome m init
    · simp only [Welcome, not_forall, not_not] at h
      obtain ⟨before, c, after, fault, heq, hc⟩ := h
      refine ⟨before, c, after, fault, heq, ?_, hc⟩
      rcases List.eq_nil_or_concat after with rfl | ⟨after, last', rfl⟩
      · rw [← (List.append_inj' heq rfl).1]
        exact hinit
      · rw [List.concat_eq_append, ← List.cons_append, ← List.append_assoc] at heq
        have hsplit := (List.append_inj' heq rfl).1
        exact absurd hc (hinit before c after fault hsplit)
    · obtain ⟨before, c, after, fault, rfl, hbefore, hc⟩ := ih hinit
      exact ⟨before, c, after ++ [last], fault, by simp, hbefore, hc⟩

/-! ## One addition after the other -/

/-- What is not welcome first in a list is what a machine refuses. -/
theorem unwelcome_nil_iff (ws : Workspace) (m : MachineRef) (hc : ws.Consistent) (hm : m.index < ws.machines.length)
    (c : Candidate) (fault : Fault) : ws.Unwelcome m [] c fault ↔ ws.refusal? m c = some fault := by
  have hx := hc.machine m hm
  have hall : (ws.machine m).registry.find? allStateId = some (ws.machine m).allState :=
    (Assoc.lookup_eq_some_iff_mem _ hx.keys_nodup _ _).mpr hx.allState_mem
  constructor
  · rintro (_ | ⟨r, hkind⟩ | ⟨r, existing, hkind, hid⟩)
    · rfl
    · rw [kindOf] at hkind
      simp [refusal?, hkind]
    · rw [kindOf] at hkind
      simp only [refusal?, hkind, Bool.not_true, Bool.false_eq_true, if_false]
      rcases hid with ⟨held, h⟩ | h | h | ⟨s, hs, _⟩
      · rw [h]
      · have hfree : (ws.machine m).registry.find? (ws.entity r).id = none :=
          (Assoc.lookup_eq_none_iff_keys _ _).mpr fun hmem => hx.not_reserved _ hmem h
        rw [hfree, if_pos h]
      · rw [h, hall, ← hx.allState_kind]
      · cases hs
  · intro h
    cases c with
    | foreign typeName =>
      cases h
      exact .foreign typeName
    | entity r =>
      cases hkind : Machine.holds (ws.kindOf r) with
      | false =>
        rw [kindOf] at hkind
        simp only [refusal?, hkind, Bool.not_false, if_true, Option.some.injEq] at h
        subst h
        exact .unheld r hkind
      | true =>
        have hheld := hkind
        rw [kindOf] at hheld
        simp only [refusal?, hheld, Bool.not_true, Bool.false_eq_true, if_false] at h
        split at h
        case h_1 held hfound =>
          cases h
          exact .occupied r _ hkind (.registered held hfound)
        case h_2 =>
          split at h
          case isTrue hown =>
            cases h
            exact .occupied r _ hkind (.own hown)
          case isFalse => cases h

section
variable (ws : Workspace) (m : MachineRef) (r : EntityRef) (hm : m.index < ws.machines.length)
  (htaken : ws.refusal? m (.entity r) = none)
include hm

theorem reserved_taking : ((ws.taking m r).machine m).registry.reserved = (ws.machine m).registry.reserved := by
  rw [machine_taking_self ws m r hm]
  rfl

include htaken

omit hm in
theorem find?_of_taken : (ws.machine m).registry.find? (ws.entity r).id = none := by
  rw [Registry.find?, Assoc.lookup_eq_none_iff_keys]
  exact ((refusal?_eq_none_iff ws m r).mp htaken).2.1

theorem find?_taking (id : String) : ((ws.taking m r).machine m).registry.find? id =
    if id = (ws.entity r).id then some r else (ws.machine m).registry.find? id := by
  have hfree := find?_of_taken ws m r htaken
  rw [machine_taking_self ws m r hm]
  simp only [Machine.enroll, Machine.join, Registry.find?, List.lookup_append, List.lookup_cons,
    List.lookup_nil] at hfree ⊢
  by_cases hid : id = (ws.entity r).id
  · simp [hid, hfree]
  · have hne : (id == (ws.entity r).id) = false := by simpa using hid
    simp [hid, hne]

/-- What a machine has just taken over is in the way as something registered; before, it was as an earlier thing. -/
theorem occupant_taking_iff (before : List Candidate) (id existing : String) :
    (ws.taking m r).Occupant m before id existing ↔ ws.Occupant m (.entity r :: before) id existing := by
  have hfound := find?_taking ws m r hm htaken id
  have hreserved := reserved_taking ws m r hm
  constructor
  · rintro (⟨held, h⟩ | h | h | ⟨s, hs, h⟩)
    · rw [kindOf_taking]
      rw [hfound] at h
      split at h
      case isTrue hid =>
        obtain rfl := Option.some.inj h
        exact .earlier _ List.mem_cons_self hid.symm
      case isFalse => exact .registered held h
    · exact .own (hreserved ▸ h)
    · exact .all h
    · rw [kindOf_taking]
      rw [id_taking] at h
      exact .earlier s (List.mem_cons_of_mem _ hs) h
  · rintro (⟨held, h⟩ | h | h | ⟨s, hs, h⟩)
    · have hid : id ≠ (ws.entity r).id := by
        rintro rfl
        rw [find?_of_taken ws m r htaken] at h
        cases h
      rw [← kindOf_taking ws m r]
      exact .registered held (by rw [hfound, if_neg hid, h])
    · exact .own (hreserved.trans h)
    · exact .all h
    · rw [← kindOf_taking ws m r]
      rcases List.mem_cons.mp hs with hsr | hs
      · obtain rfl := Candidate.entity.inj hsr
        exact .registered s (by rw [hfound, if_pos h.symm])
      · exact .earlier s hs (by rw [id_taking, h])

theorem unwelcome_taking_iff (before : List Candidate) (c : Candidate) (fault : Fault) :
    (ws.taking m r).Unwelcome m before c fault ↔ ws.Unwelcome m (.entity r :: before) c fault := by
  have hreserved := reserved_taking ws m r hm
  constructor
  · rintro (_ | ⟨s, hkind⟩ | ⟨s, existing, hkind, hid⟩)
    · exact .foreign _
    · exact .unheld s (by rwa [kindOf_taking] at hkind)
    · rw [occupant_taking_iff ws m r hm htaken, id_taking] at hid
      rw [hreserved, id_taking, kindOf_taking]
      exact .occupied s existing (by rwa [kindOf_taking] at hkind) hid
  · rintro (_ | ⟨s, hkind⟩ | ⟨s, existing, hkind, hid⟩)
    · exact .foreign _
    · exact .unheld s (by rwa [kindOf_taking])
    · rw [← hreserved, ← id_taking ws m r, ← kindOf_taking ws m r]
      refine .occupied s existing (by rwa [kindOf_taking]) ?_
      rwa [occupant_taking_iff ws m r hm htaken, id_taking]

theorem welcome_taking_iff (rest : List Candidate) (hc : ws.Consistent) :
    (ws.taking m r).Welcome m rest ↔ ws.Welcome m (.entity r :: rest) := by
  have hfirst : ∀ fault, ¬ ws.Unwelcome m [] (.entity r) fault := fun fault h => by
    rw [unwelcome_nil_iff ws m hc hm, htaken] at h
    cases h
  constructor
  · intro h before c after fault heq hbad
    rcases List.cons_eq_append_iff.mp heq with ⟨rfl, hcons⟩ | ⟨before, rfl, hrest⟩
    · obtain ⟨rfl, rfl⟩ := List.cons.inj hcons
      exact hfirst fault hbad
    · exact h before c after fault hrest ((unwelcome_taking_iff ws m r hm htaken before c fault).mpr hbad)
  · rintro h before c after fault rfl hbad
    exact h (.entity r :: before) c after fault rfl ((unwelcome_taking_iff ws m r hm htaken before c fault).mp hbad)

end

section
variable {ws : Workspace} {m : MachineRef} (hc : ws.Consistent) (hm : m.index < ws.machines.length)
include hc hm

theorem exists_refusal?_none {c : Candidate} {rest : List Candidate} (h : ws.Welcome m (c :: rest)) :
    ∃ r, c = .entity r ∧ ws.refusal? m (.entity r) = none := by
  have hfirst : ws.refusal? m c = none := by
    cases hrefused : ws.refusal? m c with
    | none => rfl
    | some fault => exact absurd ((unwelcome_nil_iff ws m hc hm c fault).mpr hrefused) (h [] c rest fault rfl)
  cases c with
  | foreign typeName => cases hfirst
  | entity r => exact ⟨r, rfl, hfirst⟩

/-- An addition passes what is welcome. -/
theorem snd_add_of_welcome {things : List Candidate} (h : ws.Welcome m things) : (ws.add m things).2 = .ok () := by
  -- What is welcome next depends on what was taken before, so the workspace is general.
  induction things generalizing ws with
  | nil => rfl
  | cons c rest ih =>
    obtain ⟨r, rfl, htaken⟩ := exists_refusal?_none hc hm h
    rw [add, addOne_taken ws m r htaken]
    exact ih (consistent_taking ws m r htaken hc) (by simpa using hm)
      ((welcome_taking_iff ws m r hm htaken rest hc).mpr h)

/-- An addition stops at the first thing that is not welcome. -/
theorem add_of_unwelcome {before : List Candidate} {c : Candidate} {fault : Fault} (after : List Candidate)
    (h : ws.Welcome m before) (hbad : ws.Unwelcome m before c fault) :
    ws.add m (before ++ c :: after) = ((ws.add m before).1, .error fault) := by
  induction before generalizing ws with
  | nil =>
    rw [unwelcome_nil_iff ws m hc hm] at hbad
    rw [List.nil_append]
    simp only [add, addOne_refused ws m c fault hbad]
  | cons b before ih =>
    obtain ⟨r, rfl, htaken⟩ := exists_refusal?_none hc hm h
    rw [List.cons_append, add, add, addOne_taken ws m r htaken]
    exact ih (consistent_taking ws m r htaken hc) (by simpa using hm)
      ((welcome_taking_iff ws m r hm htaken before hc).mpr h)
      ((unwelcome_taking_iff ws m r hm htaken before c fault).mpr hbad)

end

/-! ## Lists of additions -/

/-- An addition of two lists goes on with the second one if it passes the first one. -/
theorem add_append (ws : Workspace) (m : MachineRef) (xs ys : List Candidate)
    (h : (ws.add m xs).2 = .ok ()) : ws.add m (xs ++ ys) = (ws.add m xs).1.add m ys := by
  induction xs generalizing ws with
  | nil => rfl
  | cons c rest ih =>
    rw [List.cons_append, add, add]
    rw [add] at h
    split
    case h_1 hstep =>
      rw [hstep] at h
      cases h
    case h_2 next hstep =>
      rw [hstep] at h
      exact ih next h

section
variable {ws : Workspace} {m : MachineRef} (hc : ws.Consistent) (hm : m.index < ws.machines.length)
  (things : List Candidate)
include hc hm

/-- An addition passes if and only if everything is welcome. -/
theorem snd_add_eq_ok_iff : (ws.add m things).2 = .ok () ↔ ws.Welcome m things := by
  refine ⟨fun h => by_contra fun hnot => ?_, snd_add_of_welcome hc hm⟩
  obtain ⟨before, c, after, fault, rfl, hbefore, hbad⟩ := exists_first_unwelcome ws m things hnot
  rw [add_of_unwelcome hc hm after hbefore hbad] at h
  cases h

theorem exists_snd_add_eq_error_iff : (∃ fault, (ws.add m things).2 = .error fault) ↔
    ∃ before c after fault, things = before ++ c :: after ∧ ws.Unwelcome m before c fault := by
  have hnot : (∃ fault, (ws.add m things).2 = .error fault) ↔ ¬ (ws.add m things).2 = .ok () := by
    cases (ws.add m things).2 <;> simp
  rw [hnot, snd_add_eq_ok_iff hc hm things]
  simp only [Welcome, not_forall, not_not, exists_prop]

omit hc in
/-- What was added belongs to the machine, and nothing else has changed about it. -/
theorem entity_add_of_ok (h : (ws.add m things).2 = .ok ()) (r : EntityRef) :
    (.entity r ∉ things → (ws.add m things).1.entity r = ws.entity r) ∧
      (.entity r ∈ things → (ws.add m things).1.entity r = { ws.entity r with machine := some m }) := by
  have hall := (accepted_initial ws m things).2 h
  have hmem : .entity r ∈ things ↔ r ∈ ws.accepted m things := by
    conv_lhs => rw [← hall]
    exact List.mem_map_of_injective fun _ _ => Candidate.entity.inj
  rw [hmem, fst_add]
  refine ⟨entity_takingAll_of_not_mem ws m _ r, fun hr => entity_takingAll_of_mem ws m _ r hr ?_⟩
  rw [← hall] at h
  exact known_of_holds ws r (((add_ok_iff ws m _ hm).mp h).holds r hr)

end

/-- An addition fails if and only if something in its list is not welcome after what comes before it. It has then added
what comes before the first such thing, and has touched no other entity. An addition that passes can be cut into two
anywhere. -/
theorem add_stops_cleanly (ws : Workspace) (m : MachineRef) (things : List Candidate) (hreach : ws.Reachable)
    (hm : m.index < ws.machines.length) :
    ((∃ fault, (ws.add m things).2 = .error fault) ↔
      ∃ before c after fault, things = before ++ c :: after ∧ ws.Unwelcome m before c fault) ∧
    (∀ before c after fault, things = before ++ c :: after → ws.Welcome m before → ws.Unwelcome m before c fault →
      (ws.add m before).2 = .ok () ∧ ws.add m things = ((ws.add m before).1, .error fault) ∧
      ∀ r, (.entity r ∉ before → (ws.add m things).1.entity r = ws.entity r) ∧
        (.entity r ∈ before → (ws.add m things).1.entity r = { ws.entity r with machine := some m })) ∧
    (ws.Welcome m things → ∀ xs ys, things = xs ++ ys →
      (ws.add m xs).2 = .ok () ∧ ws.add m things = (ws.add m xs).1.add m ys) := by
  have hc := hreach.consistent
  refine ⟨exists_snd_add_eq_error_iff hc hm things, ?_, ?_⟩
  · rintro before c after fault rfl hbefore hbad
    have hok := snd_add_of_welcome hc hm hbefore
    have hstops := add_of_unwelcome hc hm after hbefore hbad
    refine ⟨hok, hstops, ?_⟩
    rw [hstops]
    exact entity_add_of_ok hm before hok
  · rintro h xs ys rfl
    have hok := snd_add_of_welcome hc hm h.left
    exact ⟨hok, add_append ws m xs ys hok⟩

/-- A machine with one state, beside a state, an event with the id of the machine and a thing of no kind. -/
def waiting : Workspace :=
  (((filled "m" [{ id := "s", detail := .state [] [] none }]).perform
    (.make { id := "t", detail := .state [] [] none })).perform (.make { id := "m", detail := .event none })).perform
      (.make { id := "p", detail := .plain })

theorem reachable_waiting : waiting.Reachable :=
  reachable_perform _ _ (reachable_perform _ _ (reachable_perform _ _ (reachable_filled _ _)))

/-- The second thing has the id of the machine, so what follows is not looked at. -/
theorem add_stops_cleanly_waiting :
    waiting.Reachable ∧ (waiting.add ⟨0⟩ [.entity ⟨2⟩]).2 = .ok () ∧
      waiting.add ⟨0⟩ [.entity ⟨2⟩, .entity ⟨3⟩, .entity ⟨4⟩, .foreign "int"] =
        ((waiting.add ⟨0⟩ [.entity ⟨2⟩]).1, .error (.duplicateIdentifier "m" "machine" "event" (some "m"))) := by
  have hwelcome : waiting.Welcome ⟨0⟩ [.entity ⟨2⟩] :=
    (snd_add_eq_ok_iff reachable_waiting.consistent (by decide +kernel) _).mp (ok_of_toOption (by decide +kernel))
  have hbad : waiting.Unwelcome ⟨0⟩ [.entity ⟨2⟩] (.entity ⟨3⟩)
      (.duplicateIdentifier "m" "machine" "event" (some "m")) :=
    .occupied ⟨3⟩ "machine" (by decide +kernel) (.own (by decide +kernel))
  obtain ⟨_, hfirst, _⟩ := add_stops_cleanly waiting ⟨0⟩ [.entity ⟨2⟩, .entity ⟨3⟩, .entity ⟨4⟩, .foreign "int"]
    reachable_waiting (by decide +kernel)
  have hstops := hfirst [.entity ⟨2⟩] (.entity ⟨3⟩) [.entity ⟨4⟩, .foreign "int"] _ rfl hwelcome hbad
  exact ⟨reachable_waiting, hstops.1, hstops.2.1⟩

/-- A state that is listed twice is refused the second time, but it belongs to the machine by then. -/
theorem add_twice_not_kept :
    ¬ ∀ (ws : Workspace) (m : MachineRef) (things before after : List Candidate) (c : Candidate) (fault : Fault),
      ws.Reachable → m.index < ws.machines.length → things = before ++ c :: after → ws.Welcome m before →
      ws.Unwelcome m before c fault →
        ∀ r, .entity r ∈ c :: after → (ws.add m things).1.entity r = ws.entity r := by
  intro h
  have hwelcome : waiting.Welcome ⟨0⟩ [.entity ⟨2⟩] :=
    (snd_add_eq_ok_iff reachable_waiting.consistent (by decide +kernel) _).mp (ok_of_toOption (by decide +kernel))
  have hkept := h waiting ⟨0⟩ _ [.entity ⟨2⟩] [] (.entity ⟨2⟩) _ reachable_waiting (by decide +kernel) rfl hwelcome
    (.occupied ⟨2⟩ _ (by decide +kernel) (.earlier ⟨2⟩ (by simp) rfl)) ⟨2⟩ (by simp)
  exact absurd (congrArg Entity.machine hkept) (by decide +kernel)

end Workspace

end StateMachine
