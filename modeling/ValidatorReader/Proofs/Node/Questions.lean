import ValidatorReader.Proofs.Node.Readings

/-!
# What a reading asks its node

However a reading over a node ends, it has called the node exactly once, and nothing but records of
no failure follows the call. It succeeds only with output that the node returned and that decodes for
the function.
-/

namespace ValidatorReader

theorem Reading.Concludes.quiet {f : Signature} {decoder : Decoder} {given : Entries}
    {result : Option SimulationResult} {outcome : Traced Reading}
    (h : Reading.Concludes f decoder given result outcome) : Quiet outcome.events := by
  cases h with
  | mismatch => exact quiet_cons rfl quiet_nil
  | _ => exact quiet_nil

theorem Controller.quiet_recordRejection {reading : Traced Reading} (h : Quiet reading.events) :
    Quiet (recordRejection reading).events := by
  obtain ⟨added, hadded, hfree⟩ := exists_events_recordRejection reading
  rw [hadded]
  apply h.append
  intro event hevent
  obtain ⟨record, hrecord, rfl⟩ := List.mem_map.1 hevent
  simp [Event.isQuiet, Event.recordsFailure, hfree record hrecord]

namespace Node

open Controller (plainRequest dispatchRecord readingEntries)

variable {node : Node} {block contract : Value} {f : Signature} {a : Address}

/-! ## The call of a reading -/

/-- What an error of the node can be classified as: as no answer or as a failed simulation, which
are on record, or as a failure without a record. -/
inductive Classified : Traced (Option SimulationResult) → Prop
  | unanswered {records : List Event} (quiet : Quiet records) : Classified ⟨records, .ok none⟩
  | rejected {records : List Event} {reason : Option String} (quiet : Quiet records) :
    Classified ⟨records, .ok (some (.failed reason []))⟩
  | failed {e : Failure} : Classified (.fail e)

/-- Whatever the error, it is classified in one of the ways. -/
theorem classified_classify (contract : Address) (block : Value) (e : NodeError) :
    Classified (classify contract block e) := by
  cases e with
  | reverted kind message data => exact .rejected (quiet_cons rfl quiet_nil)
  | blockNotFound message response => exact .unanswered (quiet_cons rfl quiet_nil)
  | transport kind message => exact .failed
  | foreign kind message => exact .failed
  | rpc kind message response =>
    by_cases hmember : ∃ error, HasError response error
    · obtain ⟨error, member⟩ := hmember
      rcases hasText_or_lacksText error with ⟨text, worded⟩ | ⟨message', lacks⟩
      · rw [classify_of_hasText member worded]
        split
        · exact .unanswered (quiet_cons rfl quiet_nil)
        · exact .rejected (quiet_cons rfl quiet_nil)
      · rw [classify_of_lacksText member lacks]
        exact .failed
    · rw [classify_of_no_error (not_exists.1 hmember)]
      exact .failed

theorem Classified.quiet {outcome : Traced (Option SimulationResult)} (h : Classified outcome) :
    Quiet outcome.events := by
  cases h with
  | unanswered quiet => exact quiet
  | rejected quiet => exact quiet
  | failed => exact quiet_nil

/-- A request is the first thing that happens, and the only one that uses the node. -/
theorem events_process (node : Node) (p : CallParameters) (block : Value) :
    ∃ records, (node.process p block).events = .nodeCalled p.transaction block :: records ∧
      Quiet records := by
  cases hanswer : node.call p.transaction block with
  | ok output =>
    rw [process_of_ok hanswer]
    exact ⟨[], rfl, quiet_nil⟩
  | error e =>
    rw [process_of_error hanswer]
    exact ⟨_, rfl, (classified_classify _ _ _).quiet⟩

/-- A reading over an answer concludes as the checks of the answer do. -/
theorem exists_concludes_read {result : Option SimulationResult}
    (coerced : Address.coerce contract = .ok a) (hf : f.argumentTypes = [])
    (hanswer : (node.controller.simulator (plainRequest f a block)).result = .ok result) :
    ∃ outcome,
      Reading.Concludes f node.controller.decoder (readingEntries a block) result outcome ∧
      node.controller.read block f contract =
        ⟨.logged (dispatchRecord f a block) :: .simulated (plainRequest f a block) ::
          (node.controller.simulator (plainRequest f a block)).events ++
            (Controller.recordRejection outcome).events, outcome.result⟩ := by
  obtain ⟨outcome, houtcome⟩ :=
    Reading.exists_concludes f node.controller.decoder (readingEntries a block) result
  have hreading : Reading.ofResult result f node.controller.decoder
      (Reading.detailsValue (some (readingEntries a block))) = outcome :=
    Reading.ofResult_eq_of_concludes houtcome
  have hown : ∀ e, Controller.decodingFailure? f node.controller.decoder result ≠ some (.call e) :=
    Controller.decodingFailure?_strict_ne_call f result
  refine ⟨outcome, houtcome, ?_⟩
  rw [Controller.read_of_answer coerced hf hanswer, hreading,
    Controller.result_recordRejection_of_own (Controller.notReserved_readingEntries a block)
      houtcome hown]

/-- A reading calls the node once, and only records follow. -/
theorem events_read (node : Node) (block : Value) (coerced : Address.coerce contract = .ok a)
    (hf : f.argumentTypes = []) :
    ∃ records, (node.controller.read block f contract).events =
      .logged (dispatchRecord f a block) :: .simulated (plainRequest f a block) ::
        .nodeCalled (plainTransaction f a) block :: records ∧ Quiet records := by
  obtain ⟨records, hevents, hquiet⟩ :=
    events_process node (plainRequest f a block).parameters block
  have hsimulator : (node.controller.simulator (plainRequest f a block)).events =
      .nodeCalled (plainTransaction f a) block :: records := hevents
  cases hanswer : (node.controller.simulator (plainRequest f a block)).result with
  | error e =>
    rw [Controller.read_of_failure coerced hf hanswer, hsimulator]
    exact ⟨records, rfl, hquiet⟩
  | ok result =>
    obtain ⟨outcome, houtcome, hread⟩ := exists_concludes_read coerced hf hanswer
    rw [hread, hsimulator]
    exact ⟨_, rfl, hquiet.append (Controller.quiet_recordRejection houtcome.quiet)⟩

theorem nodeUses_read (node : Node) (block : Value) (coerced : Address.coerce contract = .ok a)
    (hf : f.argumentTypes = []) :
    (node.controller.read block f contract).nodeUses =
      [.nodeCalled (plainTransaction f a) block] := by
  obtain ⟨records, hevents, hquiet⟩ := events_read node block coerced hf
  rw [Traced.nodeUses, hevents, List.filter_cons_of_neg (by simp),
    List.filter_cons_of_neg (by simp), List.filter_cons_of_pos (by simp), hquiet.filter_usesNode]

/-! ## The output behind a reading -/

/-- An error of the node never becomes output. -/
theorem Classified.reverted_of_ok {outcome : Traced (Option SimulationResult)}
    {r : SimulationResult} (h : Classified outcome) (hok : outcome.result = .ok (some r)) :
    r.reverted = true := by
  cases h with
  | unanswered _ => cases hok
  | rejected _ =>
    cases hok
    rfl
  | failed => cases hok

/-- A reading is accepted only from output. -/
theorem exists_decoded_of_concludes {decoder : Decoder} {given : Entries}
    {result : Option SimulationResult} {outcome : Traced Reading} {reading : Reading}
    (h : Reading.Concludes f decoder given result outcome) (hok : outcome.result = .ok reading) :
    ∃ r first others, result = some r ∧ r.valid = true ∧ r.reverted = false ∧
      decoder f.returnTypes r.output = .ok (first :: others) ∧
      reading = Reading.content first := by
  cases h with
  | accepted known valid completed decoded typed =>
    exact ⟨_, _, _, rfl, valid, completed, decoded, (Except.ok.inj hok).symm⟩
  | _ => cases hok

/-- A reading that succeeds comes from output of the node that decodes for the function. -/
theorem exists_output_of_read {reading : Reading} (coerced : Address.coerce contract = .ok a)
    (hf : f.argumentTypes = [])
    (h : (node.controller.read block f contract).result = .ok reading) :
    ∃ output first others, node.call (plainTransaction f a) block = .ok output ∧
      Abi.decode f.returnTypes output = .ok (first :: others) ∧
      reading = Reading.content first := by
  cases hanswer : (node.controller.simulator (plainRequest f a block)).result with
  | error e =>
    rw [Controller.read_of_failure coerced hf hanswer] at h
    cases h
  | ok result =>
    obtain ⟨outcome, houtcome, hread⟩ := exists_concludes_read coerced hf hanswer
    rw [hread] at h
    obtain ⟨r, first, others, rfl, valid, completed, decoded, rfl⟩ :=
      exists_decoded_of_concludes houtcome h
    have hprocess : (node.process (plainRequest f a block).parameters block).result =
        .ok (some r) := hanswer
    rw [← transaction_plainRequest f a block]
    cases hcall : node.call (plainRequest f a block).parameters.transaction block with
    | ok output =>
      rw [process_of_ok hcall] at hprocess
      cases hprocess
      exact ⟨output, first, others, rfl, decoded, rfl⟩
    | error e =>
      rw [process_of_error hcall] at hprocess
      -- What an error is classified as was not accepted.
      have hreverted : r.reverted = true :=
        (classified_classify _ _ _).reverted_of_ok hprocess
      rw [completed] at hreverted
      cases hreverted

end Node

end ValidatorReader
