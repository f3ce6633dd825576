import SmsServer.Modem.Unsolicited

/-!
# Final result codes

A command ends on a final result code: `OK`, `ERROR`, or a `+CME ERROR:` or `+CMS ERROR:` line.
`classify_line` lists them, but which line ends a command is decided by `is_complete`, whose
lists depend on the state of the command and leave some out, and what the command is answered
with is decided by `command_responder`, which looks at the last two characters of the buffer.
`endsOnFinalResult_iff` says for which lines the three agree.
-/

namespace SmsServer

open RustStd Machine ModemEventHandlers

variable {X : Crates}

/-! ### The response as a whole -/

/-- The parser of the request accepts the response. -/
def parsesResponse (X : Crates) (request : ModemRequest) (response : Str) : Bool :=
  match request with
  | .sendSms .. => (parseCmgsResult response).isOk
  | .getNetworkStatus => (parseCregResponse response).isOk
  | .getSignalStrength => (parseCsqResponse response).isOk
  | .getNetworkOperator => (parseCopsResponse response).isOk
  | .getServiceProvider => (parseCspnResponse response).isOk
  | .getBatteryLevel => (parseCbcResponse response).isOk
  | .getGnssStatus => (parseCgpsstatusResponse (X := X) response).isOk
  | .getGnssLocation => (parseCgnsinfResponse (X := X) response false).isOk

private theorem isOk_bind_pure {A B : Type} (x : Except Str A) (f : A → B) :
    (x >>= fun a => pure (f a)).isOk = x.isOk := by
  cases x <;> rfl

/-- A response is reported as a success if it ends in `OK` and parses. -/
theorem commandResponder_isOk (request : ModemRequest) (response : Str) :
    (commandResponder (X := X) request response).isOk =
      (endsWith (trimEnd response) "OK".toList && parsesResponse X request response) := by
  unfold commandResponder
  split
  · next hends =>
    rw [Bool.eq_false_iff.mpr hends]
    rfl
  · next hends =>
    rw [not_not.mp hends, Bool.true_and]
    cases request <;> exact isOk_bind_pure _ _

/-- The end of a buffer whose last line is a trimmed text. -/
theorem endsWith_trimEnd_line (suffix : Str) {x : Str} (hx : x ≠ [])
    (hlast : ∀ c ∈ x.getLast?, isWhitespace c = false) (hsuffix : suffix.length ≤ x.length)
    (buffer : Str) : endsWith (trimEnd (buffer ++ x ++ ['\n'])) suffix = endsWith x suffix := by
  have htrim : trimEnd (buffer ++ x ++ ['\n']) = buffer ++ x := by
    obtain ⟨init, c, rfl⟩ := List.eq_nil_or_concat x |>.resolve_left hx
    have hc : isWhitespace c = false := hlast c (by simp)
    rw [trimEnd, List.rdropWhile_concat_pos _ _ _ (by decide), List.concat_eq_append,
      ← List.append_assoc, List.rdropWhile_concat_neg _ _ _ (by simp [hc])]
  rw [htrim, endsWith, endsWith, Bool.eq_iff_iff, List.isSuffixOf_iff_suffix,
    List.isSuffixOf_iff_suffix]
  exact ⟨fun h => List.suffix_of_suffix_length_le h (List.suffix_append ..) hsuffix,
    fun h => h.trans (List.suffix_append ..)⟩

namespace StateMachineState

/-! ### What a line owes the running command -/

/-- The final result codes that report a failure. -/
def IsFinalError (x : Str) : Prop :=
  x = "ERROR".toList ∨ startsWith x "+CME ERROR:".toList ∨ startsWith x "+CMS ERROR:".toList

instance : DecidablePred IsFinalError :=
  fun x => inferInstanceAs (Decidable (x = _ ∨ startsWith x _ ∨ startsWith x _))

/-- `OK` ends every command that has nothing left to be prompted for. -/
def IsFinalOk (state : CommandState) (x : Str) : Prop :=
  x = "OK".toList ∧ state ≠ .waitingForPrompt

/-- What a line of text `x` owes the command that is running: a final error is reported, a final
`OK` ends the command, and any other line is added to its response. -/
structure EndsOnFinalResult (X : Crates) (peers : Peers) (execution : CommandExecution)
    (line : Str) : Prop where
  error : IsFinalError (trim line) →
    ((command execution).transitionState (X := X) peers (.line line)).1 = idle ∧
      ∃ message delivered,
        ((command execution).transitionState (X := X) peers (.line line)).2.effects =
          [.respond execution.command (.error message) delivered]
  ok : IsFinalOk execution.context.state (trim line) →
    ((command execution).transitionState (X := X) peers (.line line)).1 = idle ∧
      ∃ response delivered,
        ((command execution).transitionState (X := X) peers (.line line)).2.effects =
          [.respond execution.command response delivered]
  other : ¬ IsFinalError (trim line) → ¬ IsFinalOk execution.context.state (trim line) →
    (command execution).transitionState (X := X) peers (.line line) =
      (command (execution.push (trim line)), ⟨[], .ok ()⟩)

/-- The lines that are misjudged: any final error while the prompt is awaited; a final error with
a number, or the reference of an SMS, while data is awaited; and after the PDU an error whose text
ends in `OK`, if the buffer parses. -/
def Misjudged (X : Crates) (execution : CommandExecution) (x : Str) : Prop :=
  match execution.context.state with
  | .waitingForPrompt => IsFinalError x
  | .waitingForData => (IsFinalError x ∧ x ≠ "ERROR".toList) ∨ startsWith x "+CMGS:".toList
  | .waitingForOk => IsFinalError x ∧ endsWith x "OK".toList ∧
      parsesResponse X execution.command.request (execution.push x).context.responseBuffer

theorem not_isFinalError_ok : ¬ IsFinalError "OK".toList := by decide

/-- A reference line is no result code. -/
theorem not_isFinal_reference {x : Str} (h : startsWith x "+CMGS:".toList) :
    ¬ IsFinalError x ∧ x ≠ "OK".toList := by
  obtain ⟨rest, rfl⟩ := List.isPrefixOf_iff_prefix.mp h
  simp [IsFinalError, startsWith]

theorem IsFinalError.length {x : Str} (h : IsFinalError x) : 2 ≤ x.length := by
  rcases h with rfl | h | h
  · decide
  · exact le_trans (by decide) (List.isPrefixOf_iff_prefix.mp h).length_le
  · exact le_trans (by decide) (List.isPrefixOf_iff_prefix.mp h).length_le

variable {peers : Peers} {execution : CommandExecution} {line : Str}

/-- A line that does not complete the command is right exactly if it is no final result. -/
theorem endsOnFinalResult_iff_of_incomplete (h : isPayload (.line line))
    (hincomplete : execution.context.state.isComplete (trim line) = false) :
    EndsOnFinalResult X peers execution line ↔
      ¬ IsFinalError (trim line) ∧ ¬ IsFinalOk execution.context.state (trim line) := by
  have heq : (command execution).transitionState (X := X) peers (.line line) =
      (command (execution.push (trim line)), ⟨[], .ok ()⟩) := by
    simp [transitionState_content peers h, processContent, hincomplete, settle]
  constructor
  · intro hends
    refine ⟨fun herror => ?_, fun hok => ?_⟩
    · have hidle := (hends.error herror).1
      rw [heq] at hidle
      cases hidle
    · have hidle := (hends.ok hok).1
      rw [heq] at hidle
      cases hidle
  · rintro ⟨herror, hok⟩
    exact ⟨fun h => absurd h herror, fun h => absurd h hok, fun _ _ => heq⟩

/-- A line that completes the command ends it, with an error if the buffer does not read as a
success. -/
theorem transitionState_complete (peers : Peers) (h : isPayload (.line line))
    (hcomplete : execution.context.state.isComplete (trim line)) :
    ∃ response delivered result,
      (command execution).transitionState (X := X) peers (.line line) =
        (idle, ⟨[.respond execution.command response delivered], result⟩) ∧
      ((∃ message, response = .error message) ↔ ¬ (commandResponder (X := X)
        execution.command.request (execution.push (trim line)).context.responseBuffer).isOk) := by
  have hfinal := finalResponse?_content (X := X) peers h execution
  rw [if_pos hcomplete] at hfinal
  cases hresponder : commandResponder (X := X) execution.command.request
      (execution.push (trim line)).context.responseBuffer with
  | ok response =>
    rw [hresponder] at hfinal
    have heq := transitionState_finished peers hfinal
    obtain ⟨delivered, heffects⟩ := execution.command.respond_effects (X := X) peers response
    rw [heffects] at heq
    refine ⟨response, delivered, _, heq, iff_of_false ?_ fun hnot => hnot rfl⟩
    rintro ⟨message, rfl⟩
    exact commandResponder_not_isError hresponder trivial
  | error message =>
    rw [hresponder] at hfinal
    have heq := transitionState_finished peers hfinal
    obtain ⟨delivered, heffects⟩ :=
      execution.command.respond_effects (X := X) peers (.error message)
    rw [heffects] at heq
    exact ⟨.error message, delivered, _, heq, iff_of_true ⟨message, rfl⟩ Bool.false_ne_true⟩

/-- A line that completes the command is right exactly if it is `OK`, or a final error that is
not reported as a success. -/
theorem endsOnFinalResult_iff_of_complete (h : isPayload (.line line))
    (hcomplete : execution.context.state.isComplete (trim line)) :
    EndsOnFinalResult X peers execution line ↔
      (IsFinalError (trim line) ∧ ¬ (commandResponder (X := X) execution.command.request
        (execution.push (trim line)).context.responseBuffer).isOk) ∨
      IsFinalOk execution.context.state (trim line) := by
  obtain ⟨response, delivered, result, heq, hisError⟩ :=
    transitionState_complete (X := X) peers h hcomplete
  rw [← hisError]
  constructor
  · intro hends
    by_cases herror : IsFinalError (trim line)
    · obtain ⟨-, message, delivered', hanswer⟩ := hends.error herror
      rw [heq] at hanswer
      cases hanswer
      exact .inl ⟨herror, message, rfl⟩
    · by_contra hnone
      rw [not_or] at hnone
      have hother := hends.other herror hnone.2
      rw [heq] at hother
      cases hother
  · rintro (⟨herror, message, rfl⟩ | hok)
    · refine ⟨fun _ => ?_, fun _ => ?_, fun hnot => absurd herror hnot⟩ <;> rw [heq]
      · exact ⟨rfl, message, delivered, rfl⟩
      · exact ⟨rfl, .error message, delivered, rfl⟩
    · refine ⟨fun herror => ?_, fun _ => ?_, fun _ hnot => absurd hok hnot⟩
      · rw [hok.1] at herror
        exact absurd herror not_isFinalError_ok
      · rw [heq]
        exact ⟨rfl, response, delivered, rfl⟩

/-- After a final error, the buffer reads as a success only if the error's text ends in `OK`. -/
theorem commandResponder_finalError (execution : CommandExecution) {x : Str}
    (herror : IsFinalError x)
    (hlast : ∀ c ∈ x.getLast?, isWhitespace c = false) :
    (commandResponder (X := X) execution.command.request
        (execution.push x).context.responseBuffer).isOk ↔
      endsWith x "OK".toList ∧
        parsesResponse X execution.command.request (execution.push x).context.responseBuffer := by
  have hne : x ≠ [] := List.ne_nil_of_length_pos (lt_of_lt_of_le (by decide) herror.length)
  rw [commandResponder_isOk, CommandExecution.push_responseBuffer,
    endsWith_trimEnd_line "OK".toList hne hlast herror.length, Bool.and_eq_true]

/-- What completes a command that waits for data. -/
theorem isComplete_waitingForData {x : Str} :
    CommandState.waitingForData.isComplete x ↔
      startsWith x "+CMGS:".toList ∨ x = "OK".toList ∨ x = "ERROR".toList := by
  simp only [CommandState.isComplete, Bool.or_eq_true, beq_iff_eq, or_assoc]

/-- What completes a command whose PDU was submitted. -/
theorem isComplete_waitingForOk {x : Str} :
    CommandState.waitingForOk.isComplete x ↔ x = "OK".toList ∨ IsFinalError x := by
  simp only [CommandState.isComplete, Bool.or_eq_true, beq_iff_eq, or_assoc, IsFinalError]

/-- **Final results.** Whatever command is running, in whatever state and with whatever buffer, a
line that is no unsolicited header ends it if and only if it is a final result code, and a final
error is reported as one, unless the line is misjudged. -/
theorem endsOnFinalResult_iff (peers : Peers) (execution : CommandExecution)
    (h : isPayload (.line line)) :
    EndsOnFinalResult X peers execution line ↔ ¬ Misjudged X execution (trim line) := by
  have hresponder := fun herror => commandResponder_finalError (X := X) execution
    (x := trim line) herror fun _ hc => getLast?_trim hc
  cases hstate : execution.context.state with
  | waitingForPrompt =>
    rw [endsOnFinalResult_iff_of_incomplete h (by rw [hstate]; rfl)]
    simp [Misjudged, hstate, IsFinalOk]
  | waitingForData =>
    have hok : IsFinalOk .waitingForData (trim line) ↔ trim line = "OK".toList :=
      and_iff_left (by decide)
    by_cases hcomplete : CommandState.waitingForData.isComplete (trim line)
    · rw [endsOnFinalResult_iff_of_complete h (by rwa [hstate]), hstate, hok]
      simp only [Misjudged, hstate]
      rcases isComplete_waitingForData.mp hcomplete with href | hline | hline
      · obtain ⟨herror, hnot⟩ := not_isFinal_reference href
        refine iff_of_false ?_ fun hright => hright (.inr href)
        rintro (⟨h, -⟩ | h)
        · exact herror h
        · exact hnot h
      · rw [hline]
        refine iff_of_true (.inr rfl) ?_
        rintro (⟨h, -⟩ | h)
        · exact not_isFinalError_ok h
        · exact absurd h (by decide)
      · -- an `ERROR` line does not end in `OK`
        have herror : IsFinalError (trim line) := .inl hline
        have hends : endsWith (trim line) "OK".toList = false := by
          rw [hline]
          decide
        rw [hresponder herror, hends, hline]
        simp [IsFinalError, startsWith]
    · rw [endsOnFinalResult_iff_of_incomplete h (by rw [hstate]; simpa using hcomplete), hstate,
        hok]
      rw [isComplete_waitingForData, not_or, not_or] at hcomplete
      obtain ⟨href, hnot, hline⟩ := hcomplete
      simp only [Misjudged, hstate, href, hnot, hline, ne_eq, not_false_eq_true, and_true,
        Bool.false_eq_true, or_false]
  | waitingForOk =>
    have hok : IsFinalOk .waitingForOk (trim line) ↔ trim line = "OK".toList :=
      and_iff_left (by decide)
    by_cases hcomplete : CommandState.waitingForOk.isComplete (trim line)
    · rw [endsOnFinalResult_iff_of_complete h (by rwa [hstate]), hstate, hok]
      simp only [Misjudged, hstate]
      rcases isComplete_waitingForOk.mp hcomplete with hline | herror
      · rw [hline]
        exact iff_of_true (.inr rfl) fun hwrong => not_isFinalError_ok hwrong.1
      · have hnot : trim line ≠ "OK".toList := fun hline => not_isFinalError_ok (hline ▸ herror)
        rw [hresponder herror]
        simp only [herror, hnot, true_and, or_false]
    · rw [endsOnFinalResult_iff_of_incomplete h (by rw [hstate]; simpa using hcomplete), hstate,
        hok]
      rw [isComplete_waitingForOk, not_or] at hcomplete
      simp only [Misjudged, hstate, hcomplete, not_false_eq_true, and_true, false_and]

/-- The reference of an SMS and its `OK`. -/
theorem endsOnFinalResult_iff_reference :
    EndsOnFinalResult .rejecting ⟨true, fun _ => true⟩
        (.new 0 (.new 1 0 (.sendSms 3 "00".toList) none) .waitingForOk) "+CMGS: 7".toList ↔
      ¬ Misjudged .rejecting
        (.new 0 (.new 1 0 (.sendSms 3 "00".toList) none) .waitingForOk)
        (trim "+CMGS: 7".toList) :=
  endsOnFinalResult_iff ⟨true, fun _ => true⟩ _ (by decide +kernel)

/-- A network that refuses the query answers `+CME ERROR: 30`, and the query goes on. -/
theorem numberedError_ignored :
    ∃ (h : List (StateMachineState × MachineInput)) (execution : CommandExecution)
      (t : List (Effect .rejecting)),
      h.map Prod.snd = [.start ⟨true, fun _ => true⟩ 0 (.new 1 0 .getNetworkOperator none)] ∧
      Run machineStep idle h (command execution) t ∧
      IsFinalError (trim "+CME ERROR: 30".toList) ∧
      ¬ EndsOnFinalResult .rejecting ⟨true, fun _ => true⟩ execution "+CME ERROR: 30".toList := by
  obtain ⟨s, t, hinputs, hrun, hfacts⟩ := Run.of_execute (machineStep (X := .rejecting)) idle
    [.start ⟨true, fun _ => true⟩ 0 (.new 1 0 .getNetworkOperator none)] (fun r => r.1)
    (b := command (.new 0 (.new 1 0 .getNetworkOperator none) .waitingForData))
    (by decide +kernel)
  obtain rfl := hfacts
  refine ⟨_, _, t, hinputs, hrun, by decide +kernel, fun hends => ?_⟩
  have hidle := (hends.error (by decide +kernel)).1
  exact absurd hidle (by decide +kernel)

end StateMachineState

end SmsServer
