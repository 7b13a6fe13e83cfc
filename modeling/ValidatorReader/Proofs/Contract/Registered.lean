import ValidatorReader.Proofs.Abi.Reads
import ValidatorReader.Proofs.Contract.Dispatch

/-!
# Readings of the registered functions

What a registered function is declared to return and what the rule for its name expects are kept in
two tables. They agree, and the decoder tags each value with the type it was read for, so that no
reading of a registered function is refused for its name or for the type of its value. A failed call
then has a decoding error behind it exactly if the simulated call succeeded.
-/

namespace ValidatorReader.Reading

variable {f : Signature} {given : Entries} {result : Option SimulationResult}
  {outcome : Traced Reading} {rule : ReadingRule} {output : List UInt8}

/-! ## The ways of a registered function -/

theorem exists_decoding_of_strict {failure : Failure}
    (decoded : Decoder.strict f.returnTypes output = .error failure) :
    output ≠ [] ∧ ∃ e, failure = .decoding e := by
  have houtput : output ≠ [] := by
    rintro rfl
    cases decoded
  obtain ⟨e, hfailure, _⟩ := (Abi.decode_eq_error_iff f.returnTypes houtput).1 decoded
  exact ⟨houtput, e, hfailure⟩

/-- Output that decodes holds nothing if it is empty, and else one value of the expected type. -/
theorem values_of_strict {values : List Abi.TypedValue} (returns : f.returnTypes = [rule.expected])
    (decoded : Decoder.strict f.returnTypes output = .ok values) :
    (output = [] ∧ values = []) ∨
      (output ≠ [] ∧ ∃ value, values = [value] ∧ value.type = rule.expected) := by
  by_cases houtput : output = []
  · subst houtput
    exact .inl ⟨rfl, (Except.ok.inj decoded).symm⟩
  · have htypes := Abi.map_type_of_decode decoded houtput
    rw [returns] at htypes
    exact .inr ⟨houtput, List.map_eq_singleton_iff.1 htypes⟩

/-- How a reading of a registered function ends: of the checks, those of its name and of the type of
its value are always passed. -/
inductive Settles (f : Signature) (rule : ReadingRule) (given : Entries) :
    Option SimulationResult → Traced Reading → Prop
  | noResult : Settles f rule given none (.fail (.call {
      kind := .noResult
      message := rule.errorMessage
      details := .dict (context f given) }))
  | unsuccessful {r : SimulationResult} (failed : ¬ (r.valid = true ∧ r.reverted = false)) :
    Settles f rule given (some r) (.fail (.call {
      kind := .callFailed
      message := rule.errorMessage
      details := .dict (context f given) }))
  | undecodable {r : SimulationResult} {e : Abi.DecodingError} (valid : r.valid = true)
    (completed : r.reverted = false) (nonempty : r.output ≠ []) :
    Settles f rule given (some r) (.fail (.call {
      kind := .callFailed
      message := rule.errorMessage
      details := .dict ((context f given).put "decoding_error" (.text e.message))
      cause := some e }))
  | emptyOutput {r : SimulationResult} (valid : r.valid = true) (completed : r.reverted = false)
    (empty : r.output = []) :
    Settles f rule given (some r) (.fail (.call {
      kind := .emptyOutput
      message := rule.emptyMessage
      details := .dict (context f given) }))
  | accepted {r : SimulationResult} {value : Abi.TypedValue} (valid : r.valid = true)
    (completed : r.reverted = false) (nonempty : r.output ≠ [])
    (typed : value.type = rule.expected) :
    Settles f rule given (some r) (pure (content value))

/-- With the rule of a function and what it returns, the rules for all functions become those for
one. -/
theorem Concludes.settles (hrule : ReadingRule.forName? f.name = some rule)
    (returns : f.returnTypes = [rule.expected])
    (h : Concludes f Decoder.strict given result outcome) : Settles f rule given result outcome := by
  -- The rule of each way is the one for the function's name.
  have hsame {rule' : ReadingRule} (known : ReadingRule.forName? f.name = some rule') :
      rule' = rule := Option.some.inj (known.symm.trans hrule)
  cases h with
  | unexpectedFunction unknown =>
    rw [unknown] at hrule
    cases hrule
  | noResult known =>
    obtain rfl := hsame known
    exact .noResult
  | unsuccessful known failed =>
    obtain rfl := hsame known
    exact .unsuccessful failed
  | undecodable known valid completed decoded =>
    obtain rfl := hsame known
    exact .undecodable valid completed (exists_decoding_of_strict decoded).1
  | decoderFailure known valid completed decoded other =>
    obtain ⟨_, cause, hcause⟩ := exists_decoding_of_strict decoded
    exact absurd hcause (other cause)
  | emptyOutput known valid completed decoded =>
    obtain rfl := hsame known
    rcases values_of_strict returns decoded with ⟨hempty, _⟩ | ⟨_, _, hvalues, _⟩
    · exact .emptyOutput valid completed hempty
    · cases hvalues
  | mismatch known valid completed decoded mistyped =>
    obtain rfl := hsame known
    rcases values_of_strict returns decoded with ⟨_, hvalues⟩ | ⟨_, _, hvalues, htype⟩
    · cases hvalues
    · obtain ⟨rfl, _⟩ := List.cons.inj hvalues
      exact absurd htype mistyped
  | accepted known valid completed decoded typed =>
    obtain rfl := hsame known
    rcases values_of_strict returns decoded with ⟨_, hvalues⟩ | ⟨hnonempty, _⟩
    · cases hvalues
    · exact .accepted valid completed hnonempty typed

/-! ## What the errors tell -/

/-- What is sure of a reading of a registered function: nothing is recorded, no error is about the
function's name, a failed call has a decoding error behind it if and only if the simulated call
succeeded, and the output is called empty exactly if a call succeeded without any. -/
structure IsSettled (given : Entries) (result : Option SimulationResult) (outcome : Traced Reading) :
    Prop where
  events : outcome.events = []
  error_kind : ∀ failure, outcome.result = .error failure →
    ∃ e, failure = .call e ∧ e.kind ∈ [.noResult, .callFailed, .emptyOutput]
  undecodable : ∀ r e, result = some r → r.valid = true → r.reverted = false →
    outcome.result = .error (.call e) → e.kind = .callFailed →
    ∃ cause, e.cause = some cause ∧ e.entries.get? "decoding_error" = some (.text cause.message)
  unsuccessful : ∀ r e, result = some r → ¬ (r.valid = true ∧ r.reverted = false) →
    outcome.result = .error (.call e) → e.kind = .callFailed →
    e.cause = none ∧ ("decoding_error" ∉ given.names → e.entries.get? "decoding_error" = none)
  emptyOutput_iff : (∃ e, outcome.result = .error (.call e) ∧ e.kind = .emptyOutput) ↔
    ∃ r, result = some r ∧ r.valid = true ∧ r.reverted = false ∧ r.output = []

theorem get?_context_decoding_error (f : Signature) (h : "decoding_error" ∉ given.names) :
    (context f given).get? "decoding_error" = none := by
  rw [context, Entries.get?_merge_of_notMem h]
  rfl

/-- One case for each way in which a call is settled. -/
theorem Settles.isSettled (h : Settles f rule given result outcome) :
    IsSettled given result outcome where
  events := by cases h <;> rfl
  error_kind failure hfailure := by
    cases h with
    | accepted => cases hfailure
    | _ => exact ⟨_, (Except.error.inj hfailure).symm, by simp⟩
  undecodable r e hresult valid completed he hkind := by
    cases h with
    | noResult => cases hresult
    | unsuccessful failed =>
      obtain rfl := Option.some.inj hresult
      exact absurd ⟨valid, completed⟩ failed
    | undecodable =>
      obtain rfl := Failure.call.inj (Except.error.inj he)
      exact ⟨_, rfl, Entries.get?_put_self _ _ _⟩
    | emptyOutput =>
      obtain rfl := Failure.call.inj (Except.error.inj he)
      cases hkind
    | accepted => cases he
  unsuccessful r e hresult failed he hkind := by
    cases h with
    | noResult => cases hresult
    | unsuccessful =>
      obtain rfl := Failure.call.inj (Except.error.inj he)
      exact ⟨rfl, get?_context_decoding_error f⟩
    | undecodable valid completed =>
      obtain rfl := Option.some.inj hresult
      exact absurd ⟨valid, completed⟩ failed
    | emptyOutput valid completed =>
      obtain rfl := Option.some.inj hresult
      exact absurd ⟨valid, completed⟩ failed
    | accepted => cases he
  emptyOutput_iff := by
    constructor
    · rintro ⟨e, he, hkind⟩
      cases h with
      | emptyOutput valid completed empty => exact ⟨_, rfl, valid, completed, empty⟩
      | accepted => cases he
      | _ =>
        obtain rfl := Failure.call.inj (Except.error.inj he)
        cases hkind
    · rintro ⟨r, hresult, valid, completed, empty⟩
      cases h with
      | noResult => cases hresult
      | unsuccessful failed =>
        obtain rfl := Option.some.inj hresult
        exact absurd ⟨valid, completed⟩ failed
      | undecodable _ _ nonempty =>
        obtain rfl := Option.some.inj hresult
        exact absurd empty nonempty
      | emptyOutput => exact ⟨_, rfl, rfl⟩
      | accepted _ _ nonempty =>
        obtain rfl := Option.some.inj hresult
        exact absurd empty nonempty

/-- The registry that is made of the names of the two functions is that of the contract. For each of
its names there is a rule that expects the type which the function is declared to return and which
its output decodes to, and every reading of the function is settled by it. -/
theorem ofResult_registered :
    (Registry.create (.text "getValidators") (.text "getEpochCounter")).result =
      .ok Registry.validatorContract ∧
    ∀ name ∈ Registry.validatorContract.names, ∃ f rule,
      Registry.validatorContract.get (.text name) = .ok f ∧
      ReadingRule.forFunction f = .ok rule ∧ f.returnTypes = [rule.expected] ∧
      (∀ output values, Decoder.strict f.returnTypes output = .ok values →
        values.map Abi.TypedValue.type = if output = [] then [] else [rule.expected]) ∧
      ∀ result details, IsSettled (details.getD []) result
        (ofResult result f Decoder.strict (detailsValue details)) := by
  refine ⟨rfl, ?_⟩
  intro name hname
  obtain ⟨f, hf, rfl⟩ := List.mem_map.1 hname
  obtain ⟨rule, hrule, returns⟩ := ReadingRule.exists_of_registered hf
  refine ⟨f, rule, Registry.get_name hf, ?_, returns, ?_, ?_⟩
  · rw [ReadingRule.forFunction, hrule]
  · intro output values decoded
    rcases values_of_strict returns decoded with ⟨houtput, rfl⟩ | ⟨houtput, value, rfl, htype⟩
    · rw [if_pos houtput, List.map_nil]
    · rw [if_neg houtput, List.map_singleton, htype]
  · intro result details
    obtain ⟨outcome, houtcome⟩ := exists_concludes f Decoder.strict (details.getD []) result
    rw [ofResult_eq_of_concludes houtcome]
    exact (houtcome.settles hrule returns).isSettled

/-- Output that is too short, a reverted call and no output at all. -/
theorem ofResult_registered_epochCounter :
    "getEpochCounter" ∈ Registry.validatorContract.names ∧
    ¬ ((SimulationResult.failed none [1]).valid = true ∧
      (SimulationResult.failed none [1]).reverted = false) ∧
    "decoding_error" ∉ renamingEntries.names ∧
    (∃ e, (ofResult (some (.successful [1, 2, 3])) getEpochCounter Decoder.strict
        (detailsValue none)).result = .error (.call e) ∧ e.kind = .callFailed ∧
      ∃ cause, e.cause = some cause ∧
        e.entries.get? "decoding_error" = some (.text cause.message)) ∧
    (∃ e, (ofResult (some (.failed none [1])) getEpochCounter Decoder.strict
        (detailsValue (some renamingEntries))).result = .error (.call e) ∧ e.kind = .callFailed ∧
      e.cause = none ∧ e.entries.get? "decoding_error" = none) ∧
    ∃ e, (ofResult (some (.successful [])) getEpochCounter Decoder.strict
      (detailsValue none)).result = .error (.call e) ∧ e.kind = .emptyOutput := by
  have hname : "getEpochCounter" ∈ Registry.validatorContract.names := by decide
  have hfailed : ¬ ((SimulationResult.failed none [1]).valid = true ∧
      (SimulationResult.failed none [1]).reverted = false) := by decide
  have hentries : "decoding_error" ∉ renamingEntries.names := by decide
  obtain ⟨f, _, hget, _, _, _, hsettled⟩ := ofResult_registered.2 _ hname
  have hregistered : Registry.validatorContract.get (.text "getEpochCounter") =
      .ok getEpochCounter := rfl
  obtain rfl : getEpochCounter = f := Except.ok.inj (hregistered.symm.trans hget)
  refine ⟨hname, hfailed, hentries, ?_, ?_, ?_⟩
  · have hshort := (hsettled (some (.successful [1, 2, 3])) none).undecodable _ _ rfl rfl rfl rfl rfl
    exact ⟨_, rfl, rfl, hshort⟩
  · obtain ⟨hcause, hnone⟩ :=
      (hsettled _ (some renamingEntries)).unsuccessful _ _ rfl hfailed rfl rfl
    exact ⟨_, rfl, rfl, hcause, hnone hentries⟩
  · exact (hsettled _ none).emptyOutput_iff.2 ⟨_, rfl, rfl, rfl, rfl⟩

end ValidatorReader.Reading
