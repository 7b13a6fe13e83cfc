import ValidatorReader.Proofs.CommandLine.NodeUse
import ValidatorReader.Proofs.Terminal.Markup

/-!
# Failures on the terminal

A run that handles a failure records it and ends with exit code one. The text of the failure is put
into markup as it is, so the terminal shows all of it exactly if no part of it means anything there;
a tag that closes what is not open even escapes from the run.
-/

namespace ValidatorReader.CommandLine

open Node (returning)
open Terminal (Piece Verbatim ink layOut plainPiece plainText scan showPieces shownText)

variable {env : Environment} {node : Node} {rest : List String} {options : Parsed} {c : Command}
  {events : List Event} {e : Failure} {r : Report}

/-! ## The line of an error -/

/-- The pieces in front of the text of a failure: the word for errors between tags. -/
def errorPieces : List Piece :=
  [.tag 0 "bold red".toList none, .plain "Error:".toList, .tag 16 ['/'] none]

theorem pieces_errorLine (cs : List Char) :
    Terminal.pieces ("[bold red]Error:[/] ".toList ++ cs) =
      errorPieces ++ scan 0 20 0 [' '] cs := rfl

theorem showPieces_errorPieces (ps : List Piece) :
    showPieces [] (errorPieces ++ ps) = (showPieces [] ps).map ("Error:".toList ++ ·) := by
  have hword : shownText "Error:".toList = "Error:".toList := by decide
  have hname (closing : List Char) : "bold red".toList ≠ '/' :: closing := nofun
  rw [errorPieces, List.cons_append, showPieces, Terminal.applyTag]
  · rw [← hword]
    rfl
  · exact hname

/-- The word for errors is shown, and what follows it is scanned on its own. -/
theorem plainText_errorLine (message : String) :
    plainText ("[bold red]Error:[/] " ++ message) =
      (showPieces [] (scan 0 20 0 [' '] message.toList)).map ("Error:".toList ++ ·) := by
  have hopen : ("[bold red]Error:[/] ".toList ++ message.toList).contains '[' = true := by simp
  rw [plainText]
  simp only [String.toList_append, hopen, if_true]
  rw [pieces_errorLine, showPieces_errorPieces]

/-- Whether a run shows a text in full behind the word for errors, blanks apart. -/
structure ShowsInFull (r : Report) (message : String) : Prop where
  escaped : r.escaped = none
  stdout : ink r.stdout.toList = ink ("Error:" ++ message).toList

/-- Whether a message is shown in full depends on its text alone, not on what happened before. -/
theorem ShowsInFull.iff_verbatim (events : List Event) (e : Failure) :
    ShowsInFull (failed events e) e.message ↔ Verbatim e.message.toList := by
  rw [← Terminal.exists_showPieces_iff_verbatim 20 [] e.message.toList]
  have hline := plainText_errorLine e.message
  cases hshown : showPieces [] (scan 0 20 0 [' '] e.message.toList) with
  | error e' =>
    rw [hshown] at hline
    constructor
    · intro h
      have hescaped := h.escaped
      simp only [failed, hline, Except.map] at hescaped
      cases hescaped
    · rintro ⟨shown, hok, -⟩
      cases hok
  | ok shown =>
    rw [hshown] at hline
    have hstdout : ink (failed events e).stdout.toList = ink "Error:".toList ++ ink shown :=
      calc
        ink (failed events e).stdout.toList
            = ink (layOut terminalWidth ("Error:".toList ++ shown)).toList := by
              simp only [failed, hline, Except.map]
        _ = ink ("Error:".toList ++ shown) := Terminal.ink_layOut (by decide) _
        _ = ink "Error:".toList ++ ink shown := Terminal.ink_append _ _
    constructor
    · intro h
      have hink := h.stdout
      rw [hstdout, String.toList_append, Terminal.ink_append] at hink
      exact ⟨shown, rfl, List.append_cancel_left hink⟩
    · rintro ⟨shown', hok, hink⟩
      obtain rfl := Except.ok.inj hok
      refine ⟨?_, ?_⟩
      · simp only [failed, hline, Except.map]
      · rw [hstdout, hink, String.toList_append, Terminal.ink_append]

/-! ## Runs that handle a failure -/

/-- Whether a run handled a failure, which it then has on record. -/
def Handled (r : Report) (e : Failure) : Prop :=
  .logged (failureRecord e) ∈ r.events

theorem notMem_of_failureFree (h : FailureFree events) : .logged (failureRecord e) ∉ events := by
  intro hmem
  cases h _ hmem

theorem failureFree_readAt (node : Node) (a : Address) (c : Command) (n : ℤ) :
    FailureFree (readAt node a c n).events := by
  obtain ⟨records, hevents, hquiet⟩ : ∃ records, (readAt node a c n).events = _ ∧ Quiet records :=
    Node.events_read node (.int n) rfl c.argumentTypes_function
  rw [hevents]
  exact ((hquiet.failureFree.cons rfl).cons rfl).cons rfl

/-- Reading a contract leaves no record of a failure: that is left to the end of the run. -/
theorem failureFree_readContract (node : Node) (s : Session) (c : Command) :
    FailureFree (readContract node s c).events := by
  have hblock : FailureFree [.blockNumberRead] := quiet_nil.failureFree.cons rfl
  rcases readContract_cases node s c with ⟨_, e, hread⟩ | ⟨asked, n, settles, hread⟩
  · rw [hread]
    exact hblock
  · have hasked : FailureFree asked := by
      generalize s.block = block at settles
      cases settles with
      | number n => exact quiet_nil.failureFree
      | latest newest => exact hblock
    rw [hread]
    exact hasked.append (failureFree_readAt node s.contract c n)

theorem events_failed (events : List Event) (e : Failure) :
    (failed events e).events = events ++ [.logged (failureRecord e)] := by
  unfold failed
  dsimp only
  split <;> rfl

/-- A run that was stopped handled the failure that stopped it, if that is one that is shown. -/
theorem eq_failed_of_handled_stopped {e' : Failure}
    (hevents : FailureFree events) (h : Handled (stopped events e') e) :
    stopped events e' = failed events e ∧ isShown e = true := by
  unfold Handled at h
  unfold stopped at h ⊢
  split at h
  case isTrue hshown =>
    rw [events_failed] at h
    rcases List.mem_append.1 h with h | h
    · exact absurd h (notMem_of_failureFree hevents)
    · have hrecord := Event.logged.inj (List.mem_singleton.1 h)
      obtain rfl : e = e' := Option.some.inj (congrArg LogRecord.failure hrecord)
      exact ⟨if_pos hshown, hshown⟩
  case isFalse => exact absurd h (notMem_of_failureFree hevents)

/-- A run that has a failure on record ended with it, and shows it. -/
theorem eq_failed_of_handled (h : Course env node options c rest r) (handled : Handled r e) :
    (∃ events, r = failed events e) ∧ isShown e = true := by
  have hopening {events : List Event} {result : Except SessionError Session}
      (opened : openSession env options = (events, result)) : FailureFree events :=
    (quiet_of_openSession opened).failureFree
  have hreading {events : List Event} {s : Session}
      (opened : openSession env options = (events, .ok s)) :
      FailureFree (events ++ (readContract node s c).events) :=
    (hopening opened).append (failureFree_readContract node s c)
  cases h with
  | refused opened => exact absurd handled (notMem_of_failureFree (hopening opened))
  | misused e' opened => exact absurd handled (notMem_of_failureFree (hopening opened))
  | helped opened => exact absurd handled (notMem_of_failureFree (hopening opened))
  | unsettled opened =>
    obtain ⟨hfailed, hshown⟩ := eq_failed_of_handled_stopped (hopening opened) handled
    exact ⟨⟨_, hfailed⟩, hshown⟩
  | failed opened reading =>
    obtain ⟨hfailed, hshown⟩ := eq_failed_of_handled_stopped (hreading opened) handled
    exact ⟨⟨_, hfailed⟩, hshown⟩
  | answered opened parsed reading shown =>
    exact absurd handled (notMem_of_failureFree (hreading opened))

/-- Unusable settings are a failure that every run of a command handles. -/
theorem run_of_unusable {args : List String} {given : List (String × String)} {e : SettingsError}
    (h : Gives args given) (unusable : Settings.read env = .error e) (c : Command)
    (rest : List String) (node : Node) :
    run (args ++ c.name :: rest) env node = failed [] (.settings e) := by
  rw [h.run_eq, openSession_of_unusable unusable]
  rfl

/-- Settings that cannot be used are a failure that every command handles. -/
theorem handled_of_unusable {args : List String} {given : List (String × String)}
    {e : SettingsError} (h : Gives args given) (unusable : Settings.read env = .error e)
    (c : Command) (rest : List String) (node : Node) :
    Handled (run (args ++ c.name :: rest) env node) (.settings e) := by
  rw [Handled, run_of_unusable h unusable, events_failed]
  exact List.mem_singleton.2 rfl

theorem exitCode_failed (events : List Event) (e : Failure) : (failed events e).exitCode = 1 := by
  unfold failed
  dsimp only
  split <;> rfl

/-- A run that handles a failure ends with exit code one, and shows the text of the failure in full
exactly if no part of it is markup. -/
theorem run_handled (args : List String) (env : Environment) (node : Node) (e : Failure)
    (handled : Handled (run args env node) e) :
    isShown e = true ∧ (run args env node).exitCode = 1 ∧
      (ShowsInFull (run args env node) e.message ↔ Verbatim e.message.toList) := by
  rcases idle_or_course args env node with hidle | ⟨options, c, rest, _, _, hcourse⟩
  · rw [Handled, hidle.events] at handled
    cases handled
  · obtain ⟨⟨events, hfailed⟩, hshown⟩ := eq_failed_of_handled hcourse handled
    rw [hfailed]
    exact ⟨hshown, exitCode_failed events e, ShowsInFull.iff_verbatim events e⟩

/-- A timeout that is no number, whose text means nothing in markup. -/
theorem run_handled_plain_timeout :
    Handled (run ["validators"] { rpcTimeout := some "x" } (returning []))
      (.settings (.timeoutNotNumber "'x'")) ∧
    (run ["validators"] { rpcTimeout := some "x" } (returning [])).exitCode = 1 ∧
    ShowsInFull (run ["validators"] { rpcTimeout := some "x" } (returning []))
      "VALIDATOR_CONTRACT_RPC_TIMEOUT must be a number, got 'x'" := by
  have hread : Settings.read { rpcTimeout := some "x" } = .error (.timeoutNotNumber "'x'") := by cbv
  have handled := handled_of_unusable .nil hread .validators [] (returning [])
  have hverbatim : Verbatim "VALIDATOR_CONTRACT_RPC_TIMEOUT must be a number, got 'x'".toList :=
    Terminal.verbatim_of_marks_eq_zero (by decide +kernel)
  have hmessage : (Failure.settings (.timeoutNotNumber "'x'")).message =
      "VALIDATOR_CONTRACT_RPC_TIMEOUT must be a number, got 'x'" := by decide +kernel
  obtain ⟨-, hcode, hshows⟩ := run_handled ["validators"] { rpcTimeout := some "x" } (returning [])
    (.settings (.timeoutNotNumber "'x'")) handled
  rw [hmessage] at hshows
  exact ⟨handled, hcode, hshows.2 hverbatim⟩

/-- A closing tag in the text of the timeout escapes, and nothing is shown. -/
theorem run_closing_tag_escapes :
    Handled (run ["validators"] { rpcTimeout := some "[/]" } (returning []))
      (.settings (.timeoutNotNumber "'[/]'")) ∧
    (run ["validators"] { rpcTimeout := some "[/]" } (returning [])).escaped =
      some (.markup (.nothingToClose "[/]" 74)) ∧
    (run ["validators"] { rpcTimeout := some "[/]" } (returning [])).stdout = "" := by
  have hread : Settings.read { rpcTimeout := some "[/]" } = .error (.timeoutNotNumber "'[/]'") := by
    cbv
  have handled := handled_of_unusable .nil hread .validators [] (returning [])
  have hline : plainText ("[bold red]Error:[/] " ++
      (Failure.settings (.timeoutNotNumber "'[/]'")).message) =
      .error (.nothingToClose "[/]" 74) := by decide +kernel
  have hrun : run ["validators"] { rpcTimeout := some "[/]" } (returning []) =
      failed [] (.settings (.timeoutNotNumber "'[/]'")) :=
    run_of_unusable .nil hread .validators [] (returning [])
  have hescaped : failed [] (.settings (.timeoutNotNumber "'[/]'")) =
      abandoned [.logged (failureRecord (.settings (.timeoutNotNumber "'[/]'")))]
        (.markup (.nothingToClose "[/]" 74)) := by
    simp only [failed, hline]
    rfl
  refine ⟨handled, ?_, ?_⟩
  · rw [hrun, hescaped]
    rfl
  · rw [hrun, hescaped]
    rfl

end ValidatorReader.CommandLine
