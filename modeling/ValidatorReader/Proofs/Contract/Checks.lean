import ValidatorReader.Contract.Reading
import ValidatorReader.Proofs.Entries

/-!
# The checks behind a reading

A simulator's answer passes through a fixed sequence of checks, and the first that does not pass
decides the failure. The sequence is given here as a relation with one rule for each way to end, and
the reading is shown to be the one outcome that the relation allows. The entries of a failure are
those of the caller, the name of the function beneath them and a decoding error above them.
-/

namespace ValidatorReader

/-- The entries of a call error; details of any other kind are none. -/
def CallError.entries (e : CallError) : Entries :=
  match e.details with
  | .dict entries => entries
  | _ => []

theorem CallError.entries_eq {e : CallError} {details : Entries} (h : e.details = .dict details) :
    e.entries = details := by
  rw [CallError.entries, h]

/-- The rules by name: what each of the two functions is expected to return, and the messages for it. -/
theorem ReadingRule.forName?_eq_some_iff {name : String} {rule : ReadingRule} :
    forName? name = some rule ↔
      (name = "getValidators" ∧ rule = {
        expected := .addressArray
        errorMessage := "Failed validator smart contract call"
        emptyMessage := "Unexpected empty result from validator smart contract call" }) ∨
      (name = "getEpochCounter" ∧ rule = {
        expected := .uint256
        errorMessage := "Failed epoch counter smart contract call"
        emptyMessage := "Unexpected empty result from epoch counter smart contract call" }) := by
  have hvalidators : getValidators.name = "getValidators" := rfl
  have hcounter : getEpochCounter.name = "getEpochCounter" := rfl
  have hne : "getValidators" ≠ "getEpochCounter" := by decide
  rw [forName?, hvalidators, hcounter]
  by_cases hfirst : name = "getValidators"
  · simp [hfirst, hne, ofValidators, eq_comm]
  · by_cases hsecond : name = "getEpochCounter"
    · simp [hsecond, hne.symm, ofEpochCounter, eq_comm]
    · simp [hfirst, hsecond]

/-- A function of the contract returns one value, of the type that its rule expects. -/
theorem ReadingRule.exists_of_registered {f : Signature}
    (h : f ∈ Registry.validatorContract.signatures) :
    ∃ rule, forName? f.name = some rule ∧ f.returnTypes = [rule.expected] := by
  simp only [Registry.validatorContract, List.mem_cons, List.not_mem_nil, or_false] at h
  rcases h with rfl | rfl
  · exact ⟨ofValidators, rfl, rfl⟩
  · exact ⟨ofEpochCounter, rfl, rfl⟩

namespace Reading

/-- The entries of a failure of a function: its name, and over it the entries that the caller gave. -/
def context (f : Signature) (given : Entries) : Entries :=
  Entries.merge [("function", .text f.name)] given

/-- What a value tells, whatever was expected. -/
def content : Abi.TypedValue → Reading
  | .addresses as => .validators as
  | .uint256 n _ => .epochCounter (.int n)
  | .truth b => .epochCounter (.bool b)

/-- How a reading ends. Each rule names the check that does not pass and assumes those before it; the
last is for an answer that passes all of them. -/
inductive Concludes (f : Signature) (decoder : Decoder) (given : Entries) :
    Option SimulationResult → Traced Reading → Prop
  | unexpectedFunction {result : Option SimulationResult}
    (unknown : ReadingRule.forName? f.name = none) :
    Concludes f decoder given result (.fail (.call {
      kind := .unexpectedFunction
      message := "Failed smart contract call - Unexpected function: " ++ f.name
      details := .dict [("function", .text f.name)] }))
  | noResult {rule : ReadingRule} (known : ReadingRule.forName? f.name = some rule) :
    Concludes f decoder given none (.fail (.call {
      kind := .noResult
      message := rule.errorMessage
      details := .dict (context f given) }))
  | unsuccessful {rule : ReadingRule} {r : SimulationResult}
    (known : ReadingRule.forName? f.name = some rule)
    (failed : ¬ (r.valid = true ∧ r.reverted = false)) :
    Concludes f decoder given (some r) (.fail (.call {
      kind := .callFailed
      message := rule.errorMessage
      details := .dict (context f given) }))
  | undecodable {rule : ReadingRule} {r : SimulationResult} {e : Abi.DecodingError}
    (known : ReadingRule.forName? f.name = some rule)
    (valid : r.valid = true) (completed : r.reverted = false)
    (decoded : decoder f.returnTypes r.output = .error (.decoding e)) :
    Concludes f decoder given (some r) (.fail (.call {
      kind := .callFailed
      message := rule.errorMessage
      details := .dict ((context f given).put "decoding_error" (.text e.message))
      cause := some e }))
  | decoderFailure {rule : ReadingRule} {r : SimulationResult} {e : Failure}
    (known : ReadingRule.forName? f.name = some rule)
    (valid : r.valid = true) (completed : r.reverted = false)
    (decoded : decoder f.returnTypes r.output = .error e)
    (other : ∀ cause, e ≠ .decoding cause) :
    Concludes f decoder given (some r) (.fail e)
  | emptyOutput {rule : ReadingRule} {r : SimulationResult}
    (known : ReadingRule.forName? f.name = some rule)
    (valid : r.valid = true) (completed : r.reverted = false)
    (decoded : decoder f.returnTypes r.output = .ok []) :
    Concludes f decoder given (some r) (.fail (.call {
      kind := .emptyOutput
      message := rule.emptyMessage
      details := .dict (context f given) }))
  | mismatch {rule : ReadingRule} {r : SimulationResult} {first : Abi.TypedValue}
    {others : List Abi.TypedValue} (known : ReadingRule.forName? f.name = some rule)
    (valid : r.valid = true) (completed : r.reverted = false)
    (decoded : decoder f.returnTypes r.output = .ok (first :: others))
    (mistyped : first.type ≠ rule.expected) :
    Concludes f decoder given (some r)
      ⟨[.logged (mismatchRecord f rule.expected first)], .error (.call {
        kind := .callFailed
        message := rule.errorMessage
        details := .dict (context f given)
        cause := none })⟩
  | accepted {rule : ReadingRule} {r : SimulationResult} {first : Abi.TypedValue}
    {others : List Abi.TypedValue} (known : ReadingRule.forName? f.name = some rule)
    (valid : r.valid = true) (completed : r.reverted = false)
    (decoded : decoder f.returnTypes r.output = .ok (first :: others))
    (typed : first.type = rule.expected) :
    Concludes f decoder given (some r) (pure (content first))

/-! ## Every reading ends by one of the rules -/

/-- The entries that a caller gives, or none, as a value. -/
def detailsValue (details : Option Entries) : Value :=
  details.elim .null .dict

variable {f : Signature} {decoder : Decoder} {details : Option Entries} {given : Entries}
  {rule : ReadingRule}

theorem contextEntries_detailsValue (details : Option Entries) :
    contextEntries (detailsValue details) = .ok (details.getD []) := by
  rcases details with _ | _ | ⟨entry, entries⟩ <;> rfl

theorem ofValue?_eq (expected : AbiType) (value : Abi.TypedValue) :
    ofValue? expected value = if value.type = expected then some (content value) else none := by
  cases value <;> simp [ofValue?, content, Abi.TypedValue.type, eq_comm]

theorem ofResult_of_unknown (result : Option SimulationResult) (decoder : Decoder)
    (details : Option Entries) (unknown : ReadingRule.forName? f.name = none) :
    ofResult result f decoder (detailsValue details) = .fail (.call {
      kind := .unexpectedFunction
      message := "Failed smart contract call - Unexpected function: " ++ f.name
      details := .dict [("function", .text f.name)] }) := by
  simp only [ofResult, ReadingRule.forFunction, unknown]
  rfl

theorem ofResult_none (decoder : Decoder) (details : Option Entries)
    (known : ReadingRule.forName? f.name = some rule) :
    ofResult none f decoder (detailsValue details) = .fail (.call {
      kind := .noResult
      message := rule.errorMessage
      details := .dict (context f (details.getD [])) }) := by
  simp only [ofResult, ReadingRule.forFunction, known, contextEntries_detailsValue]
  rfl

/-- A result that is not valid, or reverted, fails before its output is looked at. -/
theorem ofResult_of_unsuccessful {r : SimulationResult} (decoder : Decoder)
    (details : Option Entries) (known : ReadingRule.forName? f.name = some rule)
    (failed : ¬ (r.valid = true ∧ r.reverted = false)) :
    ofResult (some r) f decoder (detailsValue details) = .fail (.call {
      kind := .callFailed
      message := rule.errorMessage
      details := .dict (context f (details.getD [])) }) := by
  have houtcome : CallOutcome.ofResult (some r) = .failed := by
    simp_all [CallOutcome.ofResult, SimulationResult.isSuccessful]
  simp only [ofResult, ReadingRule.forFunction, known, contextEntries_detailsValue, houtcome]
  rfl

/-- A successful result is settled by what the decoder makes of its output. -/
theorem ofResult_of_successful {r : SimulationResult} (decoder : Decoder)
    (details : Option Entries) (known : ReadingRule.forName? f.name = some rule)
    (valid : r.valid = true) (completed : r.reverted = false) :
    ofResult (some r) f decoder (detailsValue details) =
      match decoder f.returnTypes r.output with
      | .error e => .fail (undecodable rule (context f (details.getD [])) e)
      | .ok values => ofDecoded f rule (context f (details.getD [])) values := by
  have houtcome : CallOutcome.ofResult (some r) = .succeeded r.output := by
    simp [CallOutcome.ofResult, SimulationResult.isSuccessful, valid, completed]
  simp only [ofResult, ReadingRule.forFunction, known, contextEntries_detailsValue, houtcome]
  rfl

theorem undecodable_of_other (rule : ReadingRule) (context : Entries) {e : Failure}
    (other : ∀ cause, e ≠ .decoding cause) : undecodable rule context e = e := by
  cases e with
  | decoding cause => exact absurd rfl (other cause)
  | _ => rfl

/-- The relation allows no outcome but the reading. -/
theorem ofResult_eq_of_concludes {result : Option SimulationResult} {outcome : Traced Reading}
    (h : Concludes f decoder (details.getD []) result outcome) :
    ofResult result f decoder (detailsValue details) = outcome := by
  cases h with
  | unexpectedFunction unknown => exact ofResult_of_unknown _ _ _ unknown
  | noResult known => exact ofResult_none _ _ known
  | unsuccessful known failed => exact ofResult_of_unsuccessful _ _ known failed
  | undecodable known valid completed decoded =>
    rw [ofResult_of_successful _ _ known valid completed, decoded]
    rfl
  | decoderFailure known valid completed decoded other =>
    rw [ofResult_of_successful _ _ known valid completed, decoded]
    simp only [undecodable_of_other _ _ other]
  | emptyOutput known valid completed decoded =>
    rw [ofResult_of_successful _ _ known valid completed, decoded]
    rfl
  | mismatch known valid completed decoded mistyped =>
    rw [ofResult_of_successful _ _ known valid completed, decoded]
    simp only [ofDecoded, ofValue?_eq, if_neg mistyped]
    rfl
  | accepted known valid completed decoded typed =>
    rw [ofResult_of_successful _ _ known valid completed, decoded]
    simp only [ofDecoded, ofValue?_eq, if_pos typed]

/-- Some rule applies to every answer. -/
theorem exists_concludes (f : Signature) (decoder : Decoder) (given : Entries)
    (result : Option SimulationResult) :
    ∃ outcome, Concludes f decoder given result outcome := by
  cases known : ReadingRule.forName? f.name with
  | none => exact ⟨_, .unexpectedFunction known⟩
  | some rule =>
    rcases result with _ | r
    · exact ⟨_, .noResult known⟩
    by_cases successful : r.valid = true ∧ r.reverted = false
    · obtain ⟨valid, completed⟩ := successful
      cases decoded : decoder f.returnTypes r.output with
      | error e =>
        by_cases cause : ∃ d, e = .decoding d
        · obtain ⟨d, rfl⟩ := cause
          exact ⟨_, .undecodable known valid completed decoded⟩
        · exact ⟨_, .decoderFailure known valid completed decoded (not_exists.1 cause)⟩
      | ok values =>
        rcases values with _ | ⟨first, others⟩
        · exact ⟨_, .emptyOutput known valid completed decoded⟩
        by_cases typed : first.type = rule.expected
        · exact ⟨_, .accepted known valid completed decoded typed⟩
        · exact ⟨_, .mismatch known valid completed decoded typed⟩
    · exact ⟨_, .unsuccessful known successful⟩

/-- The rules say all there is to say about an outcome: it is the one they conclude. -/
theorem ofResult_eq_iff {result : Option SimulationResult} {outcome : Traced Reading} :
    ofResult result f decoder (detailsValue details) = outcome ↔
      Concludes f decoder (details.getD []) result outcome := by
  constructor
  · rintro rfl
    obtain ⟨outcome, h⟩ := exists_concludes f decoder (details.getD []) result
    rwa [ofResult_eq_of_concludes h]
  · exact ofResult_eq_of_concludes

theorem get?_context (f : Signature) (hgiven : given.names.Nodup) (key : String) :
    (context f given).get? key =
      (given.get? key).or (if key = "function" then some (.text f.name) else none) := by
  rw [context, Entries.get?_merge hgiven, Entries.get?_cons, Entries.get?_nil]
  simp only [eq_comm]

/-- The checks run in one order and end as the relation says. The entries of a failure are those of
the caller over the function's name, with the decoding error over both; and an unsuccessful answer
fails the same way whatever else it holds and whatever the decoder does. -/
theorem ofResult_checks (f : Signature) (decoder : Decoder) (details : Option Entries) :
    (∀ result outcome, ofResult result f decoder (detailsValue details) = outcome ↔
      Concludes f decoder (details.getD []) result outcome) ∧
    ((details.getD []).names.Nodup → ∀ key,
      (context f (details.getD [])).get? key =
        ((details.getD []).get? key).or
          (if key = "function" then some (.text f.name) else none) ∧
      ∀ message, ((context f (details.getD [])).put "decoding_error" message).get? key =
        if key = "decoding_error" then some message
        else (context f (details.getD [])).get? key) ∧
    (∀ r r' : SimulationResult, ¬ (r.valid = true ∧ r.reverted = false) →
      ¬ (r'.valid = true ∧ r'.reverted = false) → ∀ decoder' : Decoder,
      ofResult (some r) f decoder (detailsValue details) =
        ofResult (some r') f decoder' (detailsValue details)) := by
  refine ⟨fun result outcome ↦ ofResult_eq_iff, ?_, ?_⟩
  · intro hgiven key
    refine ⟨get?_context f hgiven key, ?_⟩
    intro message
    by_cases h : key = "decoding_error"
    · rw [if_pos h, h, Entries.get?_put_self]
    · rw [if_neg h, Entries.get?_put_of_ne _ _ h]
  · intro r r' failed failed' decoder'
    cases known : ReadingRule.forName? f.name with
    | none => rw [ofResult_of_unknown _ _ _ known, ofResult_of_unknown _ _ _ known]
    | some rule =>
      rw [ofResult_of_unsuccessful _ _ known failed, ofResult_of_unsuccessful _ _ known failed']

/-- A function with the name of the one that lists the validators, declared to return a number. -/
def misdeclared : Signature where
  name := "getValidators"
  returnTypes := [.uint256]
  isFunctionName_name := getValidators.isFunctionName_name

/-- Entries of a caller that take the place of the function's name. -/
def renamingEntries : Entries :=
  [("block_number", .int 7), ("function", .text "renamed")]

/-- A failed answer ends in the error of the function's name, with the entries of the caller over the
name, and nothing else of the answer or the decoder matters. -/
theorem ofResult_misdeclared :
    renamingEntries.names.Nodup ∧
    (context misdeclared renamingEntries).get? "function" = some (.text "renamed") ∧
    ¬ ((SimulationResult.failed (some "reverted") [1]).valid = true ∧
      (SimulationResult.failed (some "reverted") [1]).reverted = false) ∧
    ¬ ((SimulationResult.invalid .internalError).valid = true ∧
      (SimulationResult.invalid .internalError).reverted = false) ∧
    ofResult (some (.failed (some "reverted") [1])) misdeclared Decoder.strict
        (detailsValue (some renamingEntries)) = .fail (.call {
      kind := .callFailed
      message := "Failed validator smart contract call"
      details := .dict [("function", .text "renamed"), ("block_number", .int 7)] }) ∧
    ofResult (some (.failed (some "reverted") [1])) misdeclared Decoder.strict
        (detailsValue (some renamingEntries)) =
      ofResult (some (.invalid .internalError)) misdeclared (fun _ _ ↦ .ok [])
        (detailsValue (some renamingEntries)) := by
  obtain ⟨hends, hentries, hfailed⟩ :=
    ofResult_checks misdeclared Decoder.strict (some renamingEntries)
  have hnodup : renamingEntries.names.Nodup := by decide
  have hcontext : context misdeclared renamingEntries =
      [("function", .text "renamed"), ("block_number", .int 7)] := by
    simp [context, misdeclared, renamingEntries, Entries.merge, Entries.put]
  have hknown := ReadingRule.forName?_eq_some_iff.2 (.inl ⟨rfl, rfl⟩)
  have hreverted : ¬ ((SimulationResult.failed (some "reverted") [1]).valid = true ∧
      (SimulationResult.failed (some "reverted") [1]).reverted = false) := by decide
  have houtcome := (hends _ _).2 (Concludes.unsuccessful (f := misdeclared) hknown hreverted)
  rw [Option.getD_some, hcontext] at houtcome
  exact ⟨hnodup, (hentries hnodup "function").1, hreverted, by decide, houtcome,
    hfailed _ _ hreverted (by decide) _⟩

end Reading

end ValidatorReader
