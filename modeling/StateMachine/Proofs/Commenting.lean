import StateMachine.Proofs.Labelling
import StateMachine.Proofs.Repeating
import StateMachine.Proofs.Specifying

/-!
# The message as a comment

Generated files begin with the message of their machine, in a comment of its own line. Whatever was tried to be set as
the message, the one that is read cannot end this line or this comment.
-/

namespace StateMachine

/-! ## Characters of messages -/

/-- The characters that a message may have. -/
def IsSafe (c : Char) : Prop := Text.isWord c = true ∨ c ∈ [' ', ':', '.', '/', '\\', '!', ',', '-']

/-- The characters that end a line. -/
def lineBreaks : List Char :=
  ['\n', '\r', '\x0b', '\x0c', '\x1c', '\x1d', '\x1e', '\u0085', '\u2028', '\u2029']

theorem isMessageChar_iff (c : Char) : isMessageChar c = true ↔ IsSafe c := by
  simp only [isMessageChar, IsSafe, Bool.or_eq_true, List.contains_iff_mem, List.mem_cons, List.not_mem_nil]
  tauto

instance : DecidablePred IsSafe := fun c => decidable_of_iff _ (isMessageChar_iff c)

/-- A text that is safe in a comment. -/
def IsSafeText (message : String) : Prop := ∀ c ∈ message.toList, IsSafe c

instance : DecidablePred IsSafeText := fun message => List.decidableBAll IsSafe message.toList

theorem not_isSafe_of_mem_lineBreaks {c : Char} (h : c ∈ lineBreaks) : ¬ IsSafe c := by
  have hall : lineBreaks.all (fun c => !isMessageChar c) = true := by decide +kernel
  rw [← isMessageChar_iff, Bool.not_eq_true]
  simpa using List.all_eq_true.mp hall c h

theorem not_isSafe_star : ¬ IsSafe '*' := by decide +kernel

theorem checkMessage_eq_ok_iff (message : String) :
    checkMessage message = .ok () ↔ IsSafeText message := by
  rw [checkMessage]
  split
  case h_1 c heq =>
    refine iff_of_false (fun h => nomatch h) fun hall => ?_
    have hunsafe := List.find?_some heq
    rw [(isMessageChar_iff c).mpr (hall c (List.mem_of_find?_eq_some heq))] at hunsafe
    cases hunsafe
  case h_2 heq =>
    refine iff_of_true rfl fun c hc => (isMessageChar_iff c).mp ?_
    simpa using List.find?_eq_none.mp heq c hc

/-- A message is refused for the leftmost character that it may not have. -/
theorem checkMessage_eq_error_iff (message : String) (fault : Fault) : checkMessage message = .error fault ↔
    ∃ before c after, message.toList = before ++ c :: after ∧ (∀ b ∈ before, IsSafe b) ∧ ¬ IsSafe c ∧
      fault = .illegalMessageCharacter message c.toString := by
  have hleftmost : ∀ c, message.toList.find? (fun c => !isMessageChar c) = some c ↔
      ∃ before after, message.toList = before ++ c :: after ∧ (∀ b ∈ before, IsSafe b) ∧ ¬ IsSafe c := by
    intro c
    simp only [List.find?_eq_some_iff_append, Bool.not_eq_true', Bool.not_not, isMessageChar_iff,
      ← Bool.not_eq_true (isMessageChar c)]
    exact ⟨fun ⟨hc, before, after, heq, hall⟩ => ⟨before, after, heq, hall, hc⟩,
      fun ⟨before, after, heq, hall, hc⟩ => ⟨hc, before, after, heq, hall⟩⟩
  rw [checkMessage]
  constructor
  · split
    case h_1 c heq =>
      intro h
      obtain ⟨before, after, hsplit, hbefore, hc⟩ := (hleftmost c).mp heq
      exact ⟨before, c, after, hsplit, hbefore, hc, (Except.error.inj h).symm⟩
    case h_2 => exact fun h => nomatch h
  · rintro ⟨before, c, after, hsplit, hbefore, hc, rfl⟩
    rw [(hleftmost c).mpr ⟨before, after, hsplit, hbefore, hc⟩]

/-! ## Comments -/

/-- A line is one comment: it opens with the first two characters and closes with the last two, and nowhere before. -/
structure IsComment (line : String) : Prop where
  opened : ['/', '*'] <+: line.toList
  closed : ['*', '/'] <:+ line.toList
  closed_once : ∀ before after, line.toList = before ++ '*' :: '/' :: after → after = []
  unbroken : ∀ c ∈ line.toList, c ∉ lineBreaks

/-- The line of a message. -/
def commentLine (message : String) : String := s!"/* {message} */"

theorem toList_commentLine (message : String) :
    (commentLine message).toList = '/' :: '*' :: ' ' :: (message.toList ++ [' ', '*', '/']) := by
  have hline : commentLine message = "/* " ++ message ++ " */" := rfl
  simp [hline]

/-- Between opening and closing there is no other place to close a comment. -/
theorem eq_nil_of_closes {body before after : List Char} (hbody : '*' ∉ body)
    (h : '/' :: '*' :: ' ' :: (body ++ [' ', '*', '/']) = before ++ '*' :: '/' :: after) : after = [] := by
  match before, h with
  | [], h | [_], h | [_, _], h => simp at h
  | _ :: _ :: _ :: before, h =>
    simp only [List.cons_append, List.cons.injEq] at h
    obtain ⟨-, -, -, h⟩ := h
    rcases List.append_eq_append_iff.mp h with ⟨rest, -, hend⟩ | ⟨rest, hsplit, hend⟩
    · match rest, hend with
      | [_], hend => exact (List.cons.inj (List.cons.inj (List.cons.inj hend).2).2).2.symm
      | [], hend => simp at hend
      | [_, _], hend => simp at hend
      | [_, _, _], hend => simp at hend
      | _ :: _ :: _ :: _ :: _, hend => simp at hend
    · cases rest with
      | nil => simp at hend
      | cons c rest =>
        simp only [List.cons_append, List.cons.injEq] at hend
        rw [hsplit, ← hend.1] at hbody
        simp at hbody

theorem isComment_commentLine (message : String) (h : IsSafeText message) :
    IsComment (commentLine message) where
  opened := ⟨' ' :: (message.toList ++ [' ', '*', '/']), by rw [toList_commentLine]; rfl⟩
  closed := ⟨'/' :: '*' :: ' ' :: (message.toList ++ [' ']), by simp [toList_commentLine]⟩
  closed_once before after heq :=
    eq_nil_of_closes (fun hstar => not_isSafe_star (h _ hstar)) ((toList_commentLine message).symm.trans heq)
  unbroken c hc := by
    rw [toList_commentLine] at hc
    simp only [List.mem_cons, List.mem_append, List.not_mem_nil, or_false] at hc
    rcases hc with rfl | rfl | rfl | hc | rfl | rfl | rfl
    case inr.inr.inr.inl => exact fun hbreak => not_isSafe_of_mem_lineBreaks hbreak (h c hc)
    all_goals decide

/-! ## The first line of a switch table -/

/-- Lines that begin with one that is not empty still do as a text. -/
theorem SwitchTable.exists_joinLines_eq (line : String) (rest : List String) (h : line ≠ "") :
    ∃ others, joinLines (line :: rest) = line ++ "\n" ++ others := by
  have hkept : ∃ kept, (((line :: rest).reverse.dropWhile (·.isEmpty)).reverse) = line :: kept := by
    have hline : line.isEmpty = false := by simpa using h
    rw [List.reverse_cons, List.dropWhile_append]
    split
    · exact ⟨[], by simp [hline]⟩
    · exact ⟨_, by rw [List.reverse_append]; rfl⟩
  obtain ⟨kept, hkept⟩ := hkept
  rw [joinLines, hkept]
  cases kept with
  | nil => exact ⟨"", by simp⟩
  | cons next kept => exact ⟨"\n".intercalate (next :: kept) ++ "\n", by simp [String.append_assoc]⟩

theorem SwitchTable.exists_render_eq {ws : Workspace} {m : MachineRef} {text : String}
    (h : (render ws m).2 = .ok text) : ∃ others, text = commentLine (ws.machine m).head.message ++ "\n" ++ others := by
  obtain ⟨functions, -, rfl⟩ := exists_functions h
  refine exists_joinLines_eq _ _ fun hempty => ?_
  have hchars := congrArg String.toList hempty
  exact absurd (toList_commentLine _ ▸ hchars) (by simp)

namespace Workspace

/-! ## Setting a message -/

section
variable (ws : Workspace) (m : MachineRef) (message : String)

theorem setMessage_eq_error_iff (fault : Fault) : (ws.setMessage m message).2 = .error fault ↔
    checkMessage message = .error fault := by
  rw [setMessage]
  split
  case h_1 heq => rw [heq]
  case h_2 heq => rw [heq]

theorem setMessage_refused {fault : Fault} (h : (ws.setMessage m message).2 = .error fault) :
    (ws.setMessage m message).1 = ws := by
  rw [setMessage, (setMessage_eq_error_iff ws m message fault).mp h]

/-- What is read after an assignment: the message that was set, or the default if it is empty. A message that is refused
leaves what was read before. -/
def readAfter (before message : String) : String :=
  if IsSafeText message then if message = "" then defaultMessage else message else before

theorem message_setMessage (hm : m.index < ws.machines.length) :
    ((ws.setMessage m message).1.machine m).head.message = readAfter (ws.machine m).head.message message := by
  have hok := checkMessage_eq_ok_iff message
  rw [setMessage, readAfter]
  split
  case h_1 heq =>
    rw [heq] at hok
    rw [if_neg fun h => nomatch hok.mpr h]
  case h_2 heq =>
    rw [if_pos (hok.mp heq)]
    dsimp only
    rw [machine_modifyMachine_self ws m _ hm, Head.message, stated?]
    by_cases hempty : message = ""
    · simp [hempty]
    · simp [hempty]

/-- Tries to set messages, one after the other. -/
def setMessages (messages : List String) : Workspace := messages.foldl (fun ws text => (ws.setMessage m text).1) ws

theorem length_setMessage : (ws.setMessage m message).1.machines.length = ws.machines.length := by
  rw [setMessage]
  split
  case h_1 => rfl
  case h_2 => exact List.length_modify ..

theorem message_setMessages (hm : m.index < ws.machines.length) (messages : List String) :
    ((ws.setMessages m messages).machine m).head.message = messages.foldl readAfter (ws.machine m).head.message := by
  induction messages generalizing ws with
  | nil => rfl
  | cons text rest ih =>
    have hrest := ih (ws.setMessage m text).1 (by rwa [length_setMessage])
    rw [message_setMessage ws m text hm] at hrest
    exact hrest

end

/-! ## Copying a message -/

theorem message_extract {ws ws' : Workspace} {m clone : MachineRef} {specifiers : List String} (hc : ws.Consistent)
    (hm : m.index < ws.machines.length) (h : ws.extract m specifiers = (ws', .ok clone)) :
    (ws'.machine clone).head.message = (ws.machine m).head.message := by
  obtain ⟨events, hselected⟩ := selected_of_extract h
  obtain ⟨_, _, hextracted⟩ := extracted_of_extract hc hm hselected h rfl
  rw [hextracted.head, Head.message_copied]

/-- An extraction does not fail because of a message. -/
theorem extract_ne_illegalMessageCharacter {ws : Workspace} {m : MachineRef} (hc : ws.Consistent)
    (hm : m.index < ws.machines.length) (specifiers : List String) (message found : String) :
    (ws.extract m specifiers).2 ≠ .error (.illegalMessageCharacter message found) := by
  cases hselected : ws.matchingEvents m specifiers with
  | error fault =>
    have hsome : specifiers ≠ [] := by
      rintro rfl
      cases hselected
    obtain ⟨_, _, _, _, _, hfault⟩ := (matchingEvents_eq_error_iff hsome fault).mp hselected
    rw [extract, hselected]
    rcases compileEventType_error hfault with ⟨_, rfl⟩ | ⟨_, rfl⟩ <;> simp
  | ok events =>
    obtain ⟨_, _, _, _, ⟨_, _, hok⟩ | ⟨_, _, _, _, herror, _⟩⟩ :=
      extract_of_matching ws m specifiers events hc hm hselected
    · rw [hok]
      simp
    · rw [herror]
      simp

/-! ## After runs -/

/-- What holds of the message of a machine. -/
structure KeepsMessageSafe (ws : Workspace) (m : MachineRef) : Prop where
  stated : (ws.machine m).head.message ≠ ""
  safe : IsSafeText (ws.machine m).head.message
  /-- It is the first line of what is generated, as one comment. -/
  rendered : ∀ text, (SwitchTable.render ws m).2 = .ok text → ∃ others,
    text = commentLine (ws.machine m).head.message ++ "\n" ++ others ∧
      IsComment (commentLine (ws.machine m).head.message)
  refused_iff : ∀ message fault, (ws.setMessage m message).2 = .error fault ↔
    ∃ before c after, message.toList = before ++ c :: after ∧ (∀ b ∈ before, IsSafe b) ∧ ¬ IsSafe c ∧
      fault = .illegalMessageCharacter message c.toString
  refused_leaves : ∀ message fault, (ws.setMessage m message).2 = .error fault → (ws.setMessage m message).1 = ws
  /-- After any messages that were accepted or refused, the last one that was accepted is read. -/
  read_after : ∀ messages, ((ws.setMessages m messages).machine m).head.message =
    messages.foldl readAfter (ws.machine m).head.message
  extracted : ∀ specifiers ws' clone, ws.extract m specifiers = (ws', .ok clone) →
    (ws'.machine clone).head.message = (ws.machine m).head.message
  never_rejected : ∀ specifiers message found,
    (ws.extract m specifiers).2 ≠ .error (.illegalMessageCharacter message found)

/-- However a machine came about and whatever was tried to be set as its message, the one that it reads is safe in a
comment, and machines that are extracted from it read the same. -/
theorem keepsMessageSafe (ws : Workspace) (m : MachineRef) (hreach : ws.Reachable) (hm : m.index < ws.machines.length) :
    ws.KeepsMessageSafe m := by
  have hc := hreach.consistent
  have hsafe := (checkMessage_eq_ok_iff _).mp (Head.message_legal _ (hc.machine m hm).message_legal)
  refine ⟨Head.message_ne_empty _, hsafe, fun text htext => ?_, fun message fault => ?_,
    fun message fault => setMessage_refused ws m message, message_setMessages ws m hm,
    fun specifiers ws' clone => message_extract hc hm, extract_ne_illegalMessageCharacter hc hm⟩
  · obtain ⟨others, htext⟩ := SwitchTable.exists_render_eq htext
    exact ⟨others, htext, isComment_commentLine _ hsafe⟩
  · rw [setMessage_eq_error_iff, checkMessage_eq_error_iff]

/-- A machine that was given a message, and after it another one that would have ended the comment. -/
def signed : Workspace := List.foldl perform {}
  (filling "m" [{ id := "s", detail := .state [] [] none }, { id := "go", detail := .event none },
    { id := "a", detail := .arc { fromId := some "s", toId := some "s", eventId := some "go" } }] ++
  [.setMessage ⟨0⟩ "Façade/v2: made by hand", .setMessage ⟨0⟩ "*/ #error"])

theorem keepsMessageSafe_signed :
    signed.Reachable ∧ (0 < signed.machines.length) ∧
      (signed.machine ⟨0⟩).head.message = "Façade/v2: made by hand" ∧
      (∃ fault, (signed.setMessage ⟨0⟩ "*/ #error").2 = .error fault) ∧
      (∃ text others, (SwitchTable.render signed ⟨0⟩).2 = .ok text ∧
        text = "/* Façade/v2: made by hand */" ++ "\n" ++ others) ∧
      ∃ ws' clone, signed.extract ⟨0⟩ [] = (ws', .ok clone) ∧
        (ws'.machine clone).head.message = "Façade/v2: made by hand" := by
  have hreach : signed.Reachable := ⟨{}, _, rfl⟩
  have hm : 0 < signed.machines.length := by decide +kernel
  have hmessage : (signed.machine ⟨0⟩).head.message = "Façade/v2: made by hand" := by decide +kernel
  have hsafe := keepsMessageSafe signed ⟨0⟩ hreach hm
  refine ⟨hreach, hm, hmessage, ?_, ?_, ?_⟩
  · exact ⟨_, (hsafe.refused_iff "*/ #error" _).mpr
      ⟨[], '*', "/ #error".toList, by decide +kernel, List.forall_mem_nil _, not_isSafe_star, rfl⟩⟩
  · obtain ⟨text, hrender⟩ := Option.isSome_iff_exists.mp
      (by decide +kernel : (SwitchTable.render signed ⟨0⟩).2.toOption.isSome = true)
    obtain ⟨others, htext, -⟩ := hsafe.rendered text (ok_of_toOption hrender)
    rw [hmessage] at htext
    exact ⟨text, others, ok_of_toOption hrender, htext⟩
  · have hextract := extract_of_toOption signed ⟨0⟩ ⟨1⟩ [] (by decide +kernel)
    exact ⟨_, _, hextract, (hsafe.extracted _ _ _ hextract).trans hmessage⟩

end Workspace

end StateMachine
