import ValidatorReader.Proofs.Contract.Dispatch

/-!
# Rejected calls in the log

A call that ends in a call error of the check of its answer leaves one warning, after everything else.
The warning tells the message and the kind of the error and repeats its details, which the check has
filled with the function, the contract and the block, and with the decoding error if there was one. A
call that ends in another way leaves no warning: one that was turned down, a failure of the simulator and
one of the decoder that is neither a decoding error nor a call error. A call error that the decoder raises
has details of its own. They may take the place of the event, and if records cannot have them the call
ends in a failure that says so.
-/

namespace ValidatorReader

/-- Whether a record says that a call was rejected. -/
def LogRecord.ReportsRejection (record : LogRecord) : Prop :=
  record.severity = .warning ∧
    Entries.get? record.extra "event" = some (.text "validator_contract.call_rejected")

namespace Controller

open Reading (Concludes context detailsValue)

variable {c : Controller} {f : Signature} {a : Address} {block contract : Value} {decoder : Decoder}
  {result : Option SimulationResult} {outcome : Traced Reading} {e : CallError}
  {failure : Option Failure} {checked ending : Except Failure Reading} {records : List LogRecord}
  {details : Entries}

/-! ## What a rejection tells -/

/-- The fields of the record of a rejected call, in order; the last is there if the decoder could not
make anything of the output. -/
def reportFields (f : Signature) (a : Address) (block : Value) (kind : CallErrorKind)
    (failure : Option Failure) : Entries :=
  [("event", .text "validator_contract.call_rejected"), ("error_type", .text kind.name),
    ("function", .text f.name), ("contract", .text a.toHex), ("block_number", block)] ++
  match failure with
  | some (.decoding cause) => [("decoding_error", .text cause.message)]
  | _ => []

theorem rejectionFields_context (kind : CallErrorKind) :
    rejectionFields kind (context f (readingEntries a block)) = reportFields f a block kind none := by
  simp [rejectionFields, context, readingEntries, reportFields, Entries.merge, Entries.put]

theorem rejectionFields_decoding (kind : CallErrorKind) (cause : Abi.DecodingError) :
    rejectionFields kind
        ((context f (readingEntries a block)).put "decoding_error" (.text cause.message)) =
      reportFields f a block kind (some (.decoding cause)) := by
  simp [rejectionFields, context, readingEntries, reportFields, Entries.merge, Entries.put]

/-- The call errors of a check tell the call that was made, unless the decoder raised them. -/
theorem rejectionFields_of_concludes (hf : f ∈ registry.signatures)
    (h : Concludes f decoder (readingEntries a block) result outcome)
    (he : outcome.result = .error (.call e))
    (hraised : decodingFailure? f decoder result ≠ some (.call e))
    (hdetails : e.details = .dict details) :
    rejectionFields e.kind details =
      reportFields f a block e.kind (decodingFailure? f decoder result) := by
  obtain ⟨rule, hrule, -⟩ := ReadingRule.exists_of_registered hf
  cases h with
  | unexpectedFunction unknown =>
    rw [unknown] at hrule
    cases hrule
  | noResult =>
    obtain rfl := Failure.call.inj (Except.error.inj he)
    rw [← Value.dict.inj hdetails]
    exact rejectionFields_context _
  | unsuccessful known failed =>
    obtain rfl := Failure.call.inj (Except.error.inj he)
    rw [← Value.dict.inj hdetails, decodingFailure?_of_unsuccessful failed]
    exact rejectionFields_context _
  | undecodable known valid completed decoded =>
    obtain rfl := Failure.call.inj (Except.error.inj he)
    rw [← Value.dict.inj hdetails, decodingFailure?_of_successful valid completed, decoded]
    exact rejectionFields_decoding _ _
  | decoderFailure known valid completed decoded =>
    obtain rfl := Except.error.inj he
    rw [decodingFailure?_of_successful valid completed, decoded] at hraised
    exact absurd rfl hraised
  | emptyOutput known valid completed decoded =>
    obtain rfl := Failure.call.inj (Except.error.inj he)
    rw [← Value.dict.inj hdetails, decodingFailure?_of_successful valid completed, decoded]
    exact rejectionFields_context _
  | mismatch known valid completed decoded =>
    obtain rfl := Failure.call.inj (Except.error.inj he)
    rw [← Value.dict.inj hdetails, decodingFailure?_of_successful valid completed, decoded]
    exact rejectionFields_context _
  | accepted => cases he

/-! ## The records of a check -/

/-- Only a value of the wrong type is recorded on the way, and it ends in a call error. -/
theorem events_of_concludes {given : Entries} (h : Concludes f decoder given result outcome)
    (hother : ∀ e, outcome.result ≠ .error (.call e)) : outcome.events = [] := by
  cases h with
  | mismatch => exact absurd rfl (hother _)
  | _ => rfl

/-- A failure of the decoder that is no decoding error is passed on. -/
theorem outcome_of_decodingFailure? (hf : f ∈ registry.signatures) {given : Entries}
    {failure : Failure} (h : Concludes f decoder given result outcome)
    (hfailure : decodingFailure? f decoder result = some failure)
    (hother : ∀ cause, failure ≠ .decoding cause) : outcome = .fail failure := by
  obtain ⟨rule, hrule, -⟩ := ReadingRule.exists_of_registered hf
  obtain ⟨r, rfl, valid, completed, decoded⟩ := exists_of_decodingFailure? hfailure
  -- The reading has both ends, by the way it was given and by the decoder's failure.
  have hreading : Reading.ofResult (some r) f decoder (detailsValue (some given)) = outcome :=
    Reading.ofResult_eq_of_concludes h
  have hfails : Reading.ofResult (some r) f decoder (detailsValue (some given)) = .fail failure :=
    Reading.ofResult_eq_of_concludes (.decoderFailure hrule valid completed decoded hother)
  rw [← hreading, hfails]

/-- Whether a call error cannot be recorded, because of a name that records reserve or because its
details are no entries, and the failure to record it. -/
def IsUnrecordable (e : CallError) (failure : Failure) : Prop :=
  (∃ (details : Entries) (name : String), e.details = .dict details ∧ name ∈ details.names ∧
    name ∈ Log.reservedKeys ∧ failure = .log (.reservedKey name)) ∨
  (∀ details, e.details ≠ .dict details) ∧ failure = .shape (.notMapping e.details.kind)

/-- What a check leaves in the log, from its own end to that of the call. A call error leaves one warning,
which comes last; its fields are the kind of the error and, put over it, the details of the error, and
these tell the call unless the error is the decoder's own. Such an error of the decoder may not be
recordable; it leaves nothing then, and neither does any other end. -/
structure RecordsCheck (f : Signature) (a : Address) (block : Value) (failure : Option Failure)
    (checked ending : Except Failure Reading) (records : List LogRecord) : Prop where
  rejected : ∀ e, ending = .error (.call e) → checked = ending ∧ ∃ before record details,
    records = before ++ [record] ∧ (∀ earlier ∈ before, earlier.severity = .debug) ∧
    e.details = .dict details ∧ record.severity = .warning ∧
    record.message = "Validator contract call rejected: " ++ e.message ∧
    record.extra = Entries.merge
      [("event", .text "validator_contract.call_rejected"), ("error_type", .text e.kind.name)]
      details ∧
    (failure ≠ some (.call e) → record.extra = reportFields f a block e.kind failure)
  quiet : (∀ e, ending ≠ .error (.call e)) → records = []
  unrecorded : checked ≠ ending → ∃ e reason, failure = some (.call e) ∧
    checked = .error (.call e) ∧ ending = .error reason ∧ IsUnrecordable e reason
  passedOn : ∀ e, failure = some e → (∀ cause, e ≠ .decoding cause) → checked = .error e

/-- Warnings are for call errors only. -/
theorem RecordsCheck.warns_iff (h : RecordsCheck f a block failure checked ending records) :
    (∃ record ∈ records, record.severity = .warning) ↔ ∃ e, ending = .error (.call e) := by
  constructor
  · rintro ⟨record, hrecord, -⟩
    by_contra hother
    rw [h.quiet (not_exists.1 hother)] at hrecord
    cases hrecord
  · rintro ⟨e, he⟩
    obtain ⟨-, before, record, details, rfl, -, -, hwarning, -⟩ := h.rejected e he
    exact ⟨record, List.mem_concat_self, hwarning⟩

/-- The event of a warning is that of a rejection, unless the decoder's own error gives another one. -/
theorem RecordsCheck.reports_iff (h : RecordsCheck f a block failure checked ending records)
    (hclean : ∀ e, failure = some (.call e) → "event" ∉ e.entries.names) :
    (∃ record ∈ records, record.ReportsRejection) ↔ ∃ e, ending = .error (.call e) := by
  constructor
  · rintro ⟨record, hrecord, hwarning, -⟩
    exact h.warns_iff.1 ⟨record, hrecord, hwarning⟩
  · rintro ⟨e, he⟩
    obtain ⟨-, before, record, details, rfl, -, hdetails, hwarning, -, hextra, hreport⟩ :=
      h.rejected e he
    refine ⟨record, List.mem_concat_self, hwarning, ?_⟩
    by_cases hraised : failure = some (.call e)
    · have hevent := hclean e hraised
      rw [CallError.entries_eq hdetails] at hevent
      rw [hextra, Entries.get?_merge_of_notMem hevent]
      rfl
    · rw [hreport hraised]
      rfl

/-- A call error that can be recorded is, behind what was recorded before. -/
theorem recordsCheck_of_recorded (hf : f ∈ registry.signatures)
    (h : Concludes f decoder (readingEntries a block) result outcome)
    (he : outcome.result = .error (.call e)) (hdetails : e.details = .dict details)
    {before : List LogRecord} (hdebug : ∀ record ∈ before, record.severity = .debug) :
    RecordsCheck f a block (decodingFailure? f decoder result) outcome.result outcome.result
      (before ++ [warningOf e details]) where
  rejected e' he' := by
    obtain rfl := Failure.call.inj (Except.error.inj (he.symm.trans he'))
    exact ⟨rfl, before, _, details, rfl, hdebug, hdetails, rfl, rfl, rfl,
      fun hraised ↦ rejectionFields_of_concludes hf h he hraised hdetails⟩
  quiet hother := absurd he (hother e)
  unrecorded hne := absurd rfl hne
  passedOn _ hfailure hother := by
    rw [outcome_of_decodingFailure? hf h hfailure hother]
    rfl

/-- A check that ends in anything but a call error records nothing. -/
theorem recordsCheck_of_other (hf : f ∈ registry.signatures)
    (h : Concludes f decoder (readingEntries a block) result outcome)
    (hother : ∀ e, outcome.result ≠ .error (.call e)) :
    RecordsCheck f a block (decodingFailure? f decoder result) outcome.result outcome.result [] where
  rejected e he := absurd he (hother e)
  quiet _ := rfl
  unrecorded hne := absurd rfl hne
  passedOn _ hfailure hcause := by
    rw [outcome_of_decodingFailure? hf h hfailure hcause]
    rfl

/-- A call error that cannot be recorded gives way to the reason why. -/
theorem recordsCheck_of_unrecordable (hraised : failure = some (.call e)) {reason : Failure}
    (hreason : IsUnrecordable e reason) :
    RecordsCheck f a block failure (.error (.call e)) (.error reason) [] where
  rejected e' he' := by
    obtain rfl := Except.error.inj he'
    rcases hreason with ⟨_, _, _, _, _, hreason⟩ | ⟨_, hreason⟩ <;> cases hreason
  quiet _ := rfl
  unrecorded _ := ⟨e, reason, hraised, rfl, rfl, hreason⟩
  passedOn failure' hfailure _ := by
    rw [Option.some.inj (hraised.symm.trans hfailure)]

theorem isUnrecordable_of_records {reason : Failure} (h : Records e (.error reason)) :
    IsUnrecordable e reason := by
  cases h with
  | reserved entries given reserved => exact .inl ⟨_, _, entries, given, reserved, rfl⟩
  | notEntries other => exact .inr ⟨other, rfl⟩

/-- An error that the check makes itself can be recorded. -/
theorem raised_of_unrecorded {reason : Failure}
    (h : Concludes f decoder (readingEntries a block) result outcome)
    (he : outcome.result = .error (.call e)) (hrecord : rejectionRecord e = .error reason) :
    decodingFailure? f decoder result = some (.call e) := by
  by_contra hown
  obtain ⟨details, entries, plain⟩ :=
    exists_details_of_concludes (notReserved_readingEntries a block) h he hown
  rw [rejectionRecord_of_plain entries plain] at hrecord
  cases hrecord

/-- Whatever is concluded from a result, the check of it records what it should. -/
theorem exists_recordsCheck (hf : f ∈ registry.signatures)
    (h : Concludes f decoder (readingEntries a block) result outcome) :
    ∃ records : List LogRecord, (recordRejection outcome).events = records.map .logged ∧
      RecordsCheck f a block (decodingFailure? f decoder result) outcome.result
        (recordRejection outcome).result records := by
  by_cases hcall : ∃ e, outcome.result = .error (.call e)
  · obtain ⟨e, he⟩ := hcall
    have hrecords := records_rejectionRecord e
    cases hrecord : rejectionRecord e with
    | ok record =>
      rw [hrecord] at hrecords
      cases hrecords with
      | recorded entries =>
        obtain ⟨before, hbefore, hdebug⟩ := h.exists_debug_records
        rw [recordRejection_of_recorded he hrecord]
        refine ⟨before ++ [warningOf e _], ?_, recordsCheck_of_recorded hf h he entries hdebug⟩
        rw [hbefore, List.map_append, List.map_singleton]
    | error reason =>
      rw [hrecord] at hrecords
      have hraised := raised_of_unrecorded h he hrecord
      have houtcome := outcome_of_decodingFailure? hf h hraised nofun
      rw [recordRejection_of_unrecorded he hrecord, houtcome]
      exact ⟨[], rfl, recordsCheck_of_unrecordable hraised (isUnrecordable_of_records hrecords)⟩
  · have hother := not_exists.1 hcall
    rw [recordRejection_of_other hother, events_of_concludes h hother]
    exact ⟨[], rfl, recordsCheck_of_other hf h hother⟩

/-! ## The records of a call -/

/-- Whether a call error of the check of an answer ends a call: the simulator gave an answer, and the call
ends in a call error. -/
def IsRejected (c : Controller) (f : Signature) (a : Address) (block : Value)
    (step : Traced Reading) : Prop :=
  ∃ result e, (c.simulator (plainRequest f a block)).result = .ok result ∧
    step.result = .error (.call e)

/-- What a call that is made leaves in the log, apart from the records of the simulator. The first record
tells of the call. A failure of the simulator ends the call without a further record; an answer is
checked, and the check decides the end of the call. There is a warning exactly if the call is rejected,
and it has the event of a rejection unless an error that the decoder raised gives another one. -/
structure RecordsCall (c : Controller) (f : Signature) (a : Address) (block : Value)
    (step : Traced Reading) (records : List LogRecord) : Prop where
  events : step.events = .logged (dispatchRecord f a block) :: .simulated (plainRequest f a block) ::
    (c.simulator (plainRequest f a block)).events ++ records.map .logged
  dispatched : (dispatchRecord f a block).severity = .debug ∧
    Entries.get? (dispatchRecord f a block).extra "event" = some (.text "validator_contract.call")
  warns_iff : (∃ record ∈ dispatchRecord f a block :: records, record.severity = .warning) ↔
    IsRejected c f a block step
  reports_iff : (∀ result e, (c.simulator (plainRequest f a block)).result = .ok result →
      decodingFailure? f c.decoder result = some (.call e) → "event" ∉ e.entries.names) →
    ((∃ record ∈ dispatchRecord f a block :: records, record.ReportsRejection) ↔
      IsRejected c f a block step)
  unanswered : ∀ failure, (c.simulator (plainRequest f a block)).result = .error failure →
    step.result = .error failure ∧ records = []
  answered : ∀ result, (c.simulator (plainRequest f a block)).result = .ok result →
    RecordsCheck f a block (decodingFailure? f c.decoder result)
      (Reading.ofResult result f c.decoder (detailsValue (some (readingEntries a block)))).result
      step.result records

theorem exists_mem_dispatch_iff {P : LogRecord → Prop} (h : ¬ P (dispatchRecord f a block)) :
    (∃ record ∈ dispatchRecord f a block :: records, P record) ↔ ∃ record ∈ records, P record := by
  simp [h]

theorem not_warning_dispatchRecord : ¬ (dispatchRecord f a block).severity = .warning := nofun

/-- A simulator that fails leaves nothing to check, and no record beyond that of the request. -/
theorem recordsCall_of_failure {failure : Failure} (hcontract : Address.coerce contract = .ok a)
    (hnone : f.argumentTypes = [])
    (hanswer : (c.simulator (plainRequest f a block)).result = .error failure) :
    RecordsCall c f a block (c.read block f contract) [] := by
  have hrejected : ¬ IsRejected c f a block (c.read block f contract) := by
    rintro ⟨result, e, hresult, -⟩
    cases hanswer.symm.trans hresult
  rw [read_of_failure hcontract hnone hanswer] at hrejected ⊢
  refine ⟨by simp, ⟨rfl, rfl⟩, iff_of_false ?_ hrejected, fun _ ↦ iff_of_false ?_ hrejected, ?_, ?_⟩
  · rw [exists_mem_dispatch_iff not_warning_dispatchRecord]
    exact nofun
  · rw [exists_mem_dispatch_iff fun h ↦ not_warning_dispatchRecord h.1]
    exact nofun
  · intro failure' hfailure
    obtain rfl := Except.error.inj (hanswer.symm.trans hfailure)
    exact ⟨rfl, rfl⟩
  · intro result hresult
    cases hanswer.symm.trans hresult

/-- A call that is answered records what the check of its answer does. -/
theorem exists_recordsCall_of_answer (hf : f ∈ registry.signatures)
    (hcontract : Address.coerce contract = .ok a)
    (hanswer : (c.simulator (plainRequest f a block)).result = .ok result) :
    ∃ records, RecordsCall c f a block (c.read block f contract) records := by
  obtain ⟨outcome, houtcome⟩ :=
    Reading.exists_concludes f c.decoder (readingEntries a block) result
  obtain ⟨records, hrecords, hcheck⟩ := exists_recordsCheck hf houtcome
  have hreading : Reading.ofResult result f c.decoder
      (detailsValue (some (readingEntries a block))) = outcome :=
    Reading.ofResult_eq_of_concludes houtcome
  rw [read_of_answer hcontract (argumentTypes_of_registered hf) hanswer, hreading]
  have hrejected : IsRejected c f a block ⟨.logged (dispatchRecord f a block) ::
      .simulated (plainRequest f a block) :: (c.simulator (plainRequest f a block)).events ++
      (recordRejection outcome).events, (recordRejection outcome).result⟩ ↔
        ∃ e, (recordRejection outcome).result = .error (.call e) := by
    constructor
    · rintro ⟨_, e, -, he⟩
      exact ⟨e, he⟩
    · rintro ⟨e, he⟩
      exact ⟨result, e, hanswer, he⟩
  refine ⟨records, by rw [hrecords], ⟨rfl, rfl⟩, ?_, ?_, ?_, ?_⟩
  · rw [exists_mem_dispatch_iff not_warning_dispatchRecord, hrejected]
    exact hcheck.warns_iff
  · intro hclean
    rw [exists_mem_dispatch_iff fun h ↦ not_warning_dispatchRecord h.1, hrejected]
    exact hcheck.reports_iff fun e hraised ↦ hclean result e hanswer hraised
  · intro failure hfailure
    cases hanswer.symm.trans hfailure
  · intro result' hresult
    obtain rfl := Except.ok.inj (hanswer.symm.trans hresult)
    rw [hreading]
    exact hcheck

theorem exists_recordsCall (hf : f ∈ registry.signatures)
    (hcontract : Address.coerce contract = .ok a) :
    ∃ records, RecordsCall c f a block (c.read block f contract) records := by
  cases hanswer : (c.simulator (plainRequest f a block)).result with
  | error failure =>
    exact ⟨[], recordsCall_of_failure hcontract (argumentTypes_of_registered hf) hanswer⟩
  | ok result => exact exists_recordsCall_of_answer hf hcontract hanswer

/-- A rejected call is recorded once, as the last event of the call and with the error that it ends
in, and nothing else is recorded as rejected. This holds for a call by any name, at any block and of
any contract, whatever the simulator and the decoder do; only a decoder that raises a call error of
its own can put other values in the fields, and those are the details of that error. If these cannot be
recorded the call does not end in a call error. -/
theorem rejections_recorded (c : Controller) (block contract : Value) :
    c.getValidators block contract = c.call (.text "getValidators") block contract ∧
    c.getEpochCounter block contract = c.call (.text "getEpochCounter") block contract ∧
    ∀ name : Value,
      (∀ failure, registry.get name = .error failure →
        c.call name block contract = .fail failure) ∧
      ∀ f, registry.get name = .ok f →
        (∀ failure, Address.coerce contract = .error failure →
          c.call name block contract = .fail failure) ∧
        ∀ a, Address.coerce contract = .ok a →
          ∃ records, RecordsCall c f a block (c.call name block contract) records := by
  refine ⟨?_, ?_, ?_⟩
  · exact (call_name (f := ValidatorReader.getValidators) (by decide)).symm
  · exact (call_name (f := ValidatorReader.getEpochCounter) (by decide)).symm
  · intro name
    constructor
    · intro failure hname
      rw [call, hname, Traced.ofExcept_error_bind]
    · intro f hname
      obtain ⟨hf, rfl⟩ := Registry.mem_of_get hname
      rw [call_name hf]
      exact ⟨fun failure hrefused ↦ read_of_refused hrefused f,
        fun a hcoerced ↦ exists_recordsCall hf hcoerced⟩

/-- A controller whose simulator answers every call with three bytes. -/
def cutShort : Controller where
  simulator := fun _ ↦ pure (some (.successful [1, 2, 3]))

/-- Three bytes where a word should be: the warning comes last, with the failure of the decoder.
-/
theorem rejections_recorded_cutShort :
    cutShort.call (.text "getValidatorsAt") (.int 7) (.text "0x1") =
      .fail (.call (Registry.unknownFunction (.text "getValidatorsAt"))) ∧
    cutShort.call (.text "getEpochCounter") (.int 7) (.int 7) = .fail (.address (.wrongSize 7)) ∧
    (unreachable.call (.text "getEpochCounter") (.int 7) (.text "0x1")).events.length = 2 ∧
    ∃ (a : Address) (record : LogRecord), Address.coerce (.text "0x1") = .ok a ∧
      (cutShort.call (.text "getEpochCounter") (.int 7) (.text "0x1")).events.getLast? =
        some (.logged record) ∧
      record.severity = .warning ∧
      record.extra = reportFields ValidatorReader.getEpochCounter a (.int 7) .callFailed
        (some (.decoding (.insufficientData 3))) := by
  have hunknown : registry.get (.text "getValidatorsAt") =
      .error (.call (Registry.unknownFunction (.text "getValidatorsAt"))) := rfl
  have hregistered : registry.get (.text "getEpochCounter") =
      .ok ValidatorReader.getEpochCounter := rfl
  have hrefused : Address.coerce (.int 7) = .error (.address (.wrongSize 7)) := rfl
  obtain ⟨a, hcoerced⟩ : ∃ a, Address.coerce (.text "0x1") = .ok a := ⟨_, rfl⟩
  have hfailure : decodingFailure? ValidatorReader.getEpochCounter cutShort.decoder
      (some (.successful [1, 2, 3])) = some (.decoding (.insufficientData 3)) := rfl
  have hcalls := (rejections_recorded cutShort (.int 7) (.text "0x1")).2.2
  have hrefusals := (rejections_recorded cutShort (.int 7) (.int 7)).2.2
  have hfailures := (rejections_recorded unreachable (.int 7) (.text "0x1")).2.2
  obtain ⟨_, hfailed⟩ := ((hfailures _).2 _ hregistered).2 a hcoerced
  obtain ⟨_, hrejected⟩ := ((hcalls _).2 _ hregistered).2 a hcoerced
  obtain ⟨_, before, record, _, hrecords, _, _, hwarning, _, _, hextra⟩ :=
    (hrejected.answered _ rfl).rejected _ rfl
  refine ⟨(hcalls _).1 _ hunknown, ((hrefusals _).2 _ hregistered).1 _ hrefused, ?_,
    a, record, hcoerced, ?_, hwarning, ?_⟩
  · rw [hfailed.events, (hfailed.unanswered _ rfl).2]
    rfl
  · rw [hrejected.events, hrecords, List.map_append, ← List.append_assoc]
    exact List.getLast?_concat
  · rw [hextra (by simp [hfailure]), hfailure]

/-- A controller whose decoder turns every output down with details of its own. -/
def turnedDown (details : Entries) : Controller where
  simulator := fun _ ↦ pure (some (.successful []))
  decoder := fun _ _ ↦ .error (.call {
    kind := .callFailed, message := "turned down", details := .dict details })

/-- The reading of the validators of such a controller. -/
def refusedReading (details : Entries) : Traced Reading :=
  (turnedDown details).getValidators (.int 7) (.text "0x1")

/-- An error of the decoder with an event of its own ends a call that no record reports as rejected. One
with a reserved name leaves no warning, and the call ends in another failure. -/
theorem not_reported_with_own_event :
    (∃ e, (refusedReading [("event", .text "decoder.refused")]).result = .error (.call e) ∧
      ∀ record ∈ (refusedReading [("event", .text "decoder.refused")]).records,
        ¬ record.ReportsRejection) ∧
    (refusedReading [("name", .null)]).result = .error (.log (.reservedKey "name")) ∧
    ∀ record ∈ (refusedReading [("name", .null)]).records, record.severity ≠ .warning := by
  refine ⟨⟨_, rfl, ?_⟩, rfl, ?_⟩
  · intro record hrecord
    rcases List.mem_cons.1 hrecord with rfl | hrecord
    · exact nofun
    · obtain rfl := List.mem_singleton.1 hrecord
      rintro ⟨-, hevent⟩
      have hother : "decoder.refused" = "validator_contract.call_rejected" :=
        Value.text.inj (Option.some.inj hevent)
      exact absurd hother (by decide)
  · intro record hrecord
    obtain rfl := List.mem_singleton.1 hrecord
    exact nofun

end Controller

end ValidatorReader
