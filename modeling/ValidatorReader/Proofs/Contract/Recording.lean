import ValidatorReader.Contract.Controller
import ValidatorReader.Proofs.Abi.Layout
import ValidatorReader.Proofs.Contract.Checks

/-!
# Records of rejections

A call error is recorded with its details as further fields. The errors that the checks of an answer make
can always be recorded; one that a decoder raises may have details that are no entries, or a name that
records reserve, and then a failure to record it takes its place.
-/

namespace ValidatorReader

variable {f : Signature} {decoder : Decoder} {given details : Entries}
  {result : Option SimulationResult} {outcome reading : Traced Reading} {kind : CallErrorKind}
  {e : CallError} {failure : Failure} {record : LogRecord}

/-! ## Readings have no events but records -/

theorem Reading.Concludes.exists_debug_records
    (h : Reading.Concludes f decoder given result outcome) :
    ∃ records : List LogRecord, outcome.events = records.map .logged ∧
      ∀ record ∈ records, record.severity = .debug := by
  cases h with
  | mismatch => exact ⟨[_], rfl, List.forall_mem_singleton.2 rfl⟩
  | _ => exact ⟨[], rfl, List.forall_mem_nil _⟩

theorem Reading.Concludes.exists_records (h : Reading.Concludes f decoder given result outcome) :
    ∃ records : List LogRecord, outcome.events = records.map .logged := by
  obtain ⟨records, hrecords, _⟩ := h.exists_debug_records
  exact ⟨records, hrecords⟩

namespace Controller

open Reading (Concludes context)

/-! ## Records of rejections -/

theorem notReserved_first : ∀ name ∈ ["event", "error_type"], name ∉ Log.reservedKeys := by
  decide

/-- The fields of a rejection can be recorded exactly if the details can: its own names are not
reserved. -/
theorem reservedName?_rejectionFields_eq_none_iff :
    Log.reservedName? (rejectionFields kind details) = none ↔
      ∀ name ∈ details.names, name ∉ Log.reservedKeys := by
  rw [Log.reservedName?_eq_none_iff]
  constructor
  · intro h name hname
    exact h name (Entries.mem_names_merge.2 (.inr hname))
  · intro h name hname
    rcases Entries.mem_names_merge.1 hname with hname | hname
    · exact notReserved_first name hname
    · exact h name hname

/-- The record of a call error with given details. -/
def warningOf (e : CallError) (details : Entries) : LogRecord where
  logger := "validator_contract.controller"
  severity := .warning
  message := "Validator contract call rejected: " ++ e.message
  extra := rejectionFields e.kind details

/-- What is done about a call error: it is recorded if its details are entries without a reserved name,
and else a failure tells what stands in the way. -/
inductive Records (e : CallError) : Except Failure LogRecord → Prop
  | recorded {details : Entries} (entries : e.details = .dict details)
    (plain : ∀ name ∈ details.names, name ∉ Log.reservedKeys) :
    Records e (.ok (warningOf e details))
  | reserved {details : Entries} {name : String} (entries : e.details = .dict details)
    (given : name ∈ details.names) (reserved : name ∈ Log.reservedKeys) :
    Records e (.error (.log (.reservedKey name)))
  | notEntries (other : ∀ details, e.details ≠ .dict details) :
    Records e (.error (.shape (.notMapping e.details.kind)))

/-- A rejection is recorded, or there is a reason why it cannot be. -/
theorem records_rejectionRecord (e : CallError) : Records e (rejectionRecord e) := by
  unfold rejectionRecord
  split
  case h_1 details entries =>
    dsimp only
    split
    case h_1 name hname =>
      obtain ⟨hmem, hreserved⟩ := Log.mem_of_reservedName? hname
      refine .reserved entries ((Entries.mem_names_merge.1 hmem).resolve_left ?_) hreserved
      intro hfirst
      exact notReserved_first name hfirst hreserved
    case h_2 hnone => exact .recorded entries (reservedName?_rejectionFields_eq_none_iff.1 hnone)
  case h_2 other => exact .notEntries other

/-- Details without reserved names are recorded as they are. -/
theorem rejectionRecord_of_plain (entries : e.details = .dict details)
    (plain : ∀ name ∈ Entries.names details, name ∉ Log.reservedKeys) :
    rejectionRecord e = .ok (warningOf e details) := by
  have hrecords := records_rejectionRecord e
  cases hrecord : rejectionRecord e with
  | ok record =>
    rw [hrecord] at hrecords
    cases hrecords with
    | recorded entries' =>
      obtain rfl := Value.dict.inj (entries.symm.trans entries')
      rfl
  | error failure =>
    rw [hrecord] at hrecords
    cases hrecords with
    | reserved entries' given reserved =>
      obtain rfl := Value.dict.inj (entries.symm.trans entries')
      exact absurd reserved (plain _ given)
    | notEntries other => exact absurd entries (other details)

theorem recordRejection_of_recorded (h : reading.result = .error (.call e))
    (hrecord : rejectionRecord e = .ok record) :
    recordRejection reading = ⟨reading.events ++ [.logged record], reading.result⟩ := by
  simp only [recordRejection, h, hrecord]

theorem recordRejection_of_unrecorded (h : reading.result = .error (.call e))
    (hrecord : rejectionRecord e = .error failure) :
    recordRejection reading = ⟨reading.events, .error failure⟩ := by
  simp only [recordRejection, h, hrecord]

theorem recordRejection_of_other (h : ∀ e, reading.result ≠ .error (.call e)) :
    recordRejection reading = reading := by
  unfold recordRejection
  split
  case h_1 e he => exact absurd he (h e)
  case h_2 => rfl

/-- Recording adds one record at most, which is not that of a failure, and changes nothing before it. -/
theorem exists_events_recordRejection (reading : Traced Reading) :
    ∃ added : List LogRecord,
      (recordRejection reading).events = reading.events ++ added.map .logged ∧
      ∀ record ∈ added, record.failure = none := by
  by_cases hcall : ∃ e, reading.result = .error (.call e)
  · obtain ⟨e, he⟩ := hcall
    have hrecords := records_rejectionRecord e
    cases hrecord : rejectionRecord e with
    | ok record =>
      rw [hrecord] at hrecords
      cases hrecords with
      | recorded =>
        rw [recordRejection_of_recorded he hrecord]
        exact ⟨[_], rfl, List.forall_mem_singleton.2 rfl⟩
    | error failure =>
      rw [recordRejection_of_unrecorded he hrecord]
      exact ⟨[], (List.append_nil _).symm, nofun⟩
  · rw [recordRejection_of_other (not_exists.1 hcall)]
    exact ⟨[], (List.append_nil _).symm, nofun⟩

theorem exists_records_recordRejection {records : List LogRecord}
    (h : reading.events = records.map .logged) :
    ∃ records' : List LogRecord, (recordRejection reading).events = records'.map .logged := by
  obtain ⟨added, hadded, _⟩ := exists_events_recordRejection reading
  exact ⟨records ++ added, by rw [hadded, h, List.map_append]⟩

/-! ## Failures of the decoder -/

/-- The failure of the decoder on an answer; it is given the output of successful calls only. -/
def decodingFailure? (f : Signature) (decoder : Decoder) (result : Option SimulationResult) :
    Option Failure :=
  result.bind fun r ↦
    if r.valid = true ∧ r.reverted = false then Attempt.fault? (decoder f.returnTypes r.output)
    else none

theorem decodingFailure?_of_unsuccessful {r : SimulationResult}
    (failed : ¬ (r.valid = true ∧ r.reverted = false)) :
    decodingFailure? f decoder (some r) = none :=
  if_neg failed

theorem decodingFailure?_of_successful {r : SimulationResult}
    (valid : r.valid = true) (completed : r.reverted = false) :
    decodingFailure? f decoder (some r) = Attempt.fault? (decoder f.returnTypes r.output) :=
  if_pos ⟨valid, completed⟩

theorem exists_of_decodingFailure?
    (h : decodingFailure? f decoder result = some failure) :
    ∃ r, result = some r ∧ r.valid = true ∧ r.reverted = false ∧
      decoder f.returnTypes r.output = .error failure := by
  obtain ⟨r, rfl, hr⟩ := Option.bind_eq_some_iff.1 h
  split_ifs at hr with successful
  exact ⟨r, rfl, successful.1, successful.2, Attempt.fault?_eq_some_iff.1 hr⟩

/-- The decoder of the contract interface raises no call error. -/
theorem decodingFailure?_strict_ne_call (f : Signature) (result : Option SimulationResult)
    (e : CallError) : decodingFailure? f Decoder.strict result ≠ some (.call e) := by
  intro h
  obtain ⟨r, -, -, -, hdecode⟩ := exists_of_decodingFailure? h
  by_cases hempty : r.output = []
  · rw [Decoder.strict, hempty, Abi.decode_nil] at hdecode
    cases hdecode
  · rcases Abi.decode_eq_of_readValues f.returnTypes hempty with
      ⟨values, hvalues, _⟩ | ⟨cause, hcause, _⟩
    · cases hvalues.symm.trans hdecode
    · cases hcause.symm.trans hdecode

/-! ## Errors of the checks themselves -/

/-- The checks give entries for details, with no reserved name unless the caller gives one. -/
theorem exists_details_of_concludes (hgiven : ∀ name ∈ given.names, name ∉ Log.reservedKeys)
    (h : Concludes f decoder given result outcome) (he : outcome.result = .error (.call e))
    (hown : decodingFailure? f decoder result ≠ some (.call e)) :
    ∃ details : Entries, e.details = .dict details ∧
      ∀ name ∈ details.names, name ∉ Log.reservedKeys := by
  have hfunction : "function" ∉ Log.reservedKeys := by decide
  have hdecoding : "decoding_error" ∉ Log.reservedKeys := by decide
  have hcontext : ∀ name ∈ (context f given).names, name ∉ Log.reservedKeys := by
    intro name hname
    rcases Entries.mem_names_merge.1 hname with hname | hname
    · rwa [List.mem_singleton.1 hname]
    · exact hgiven name hname
  cases h with
  | unexpectedFunction =>
    obtain rfl := Failure.call.inj (Except.error.inj he)
    exact ⟨_, rfl, List.forall_mem_singleton.2 hfunction⟩
  | undecodable =>
    obtain rfl := Failure.call.inj (Except.error.inj he)
    refine ⟨_, rfl, ?_⟩
    intro name hname
    rcases Entries.mem_names_put.1 hname with rfl | hname
    · exact hdecoding
    · exact hcontext name hname
  | decoderFailure known valid completed decoded =>
    obtain rfl := Except.error.inj he
    rw [decodingFailure?_of_successful valid completed, decoded] at hown
    exact absurd rfl hown
  | accepted => cases he
  | _ =>
    obtain rfl := Failure.call.inj (Except.error.inj he)
    exact ⟨_, rfl, hcontext⟩

/-- Recording leaves the end of a check as it is, unless the decoder raised a call error. -/
theorem result_recordRejection_of_own (hgiven : ∀ name ∈ given.names, name ∉ Log.reservedKeys)
    (h : Concludes f decoder given result outcome)
    (hown : ∀ e, decodingFailure? f decoder result ≠ some (.call e)) :
    (recordRejection outcome).result = outcome.result := by
  by_cases hcall : ∃ e, outcome.result = .error (.call e)
  · obtain ⟨e, he⟩ := hcall
    obtain ⟨details, entries, plain⟩ := exists_details_of_concludes hgiven h he (hown e)
    rw [recordRejection_of_recorded he (rejectionRecord_of_plain entries plain)]
  · rw [recordRejection_of_other (not_exists.1 hcall)]

end Controller

end ValidatorReader
