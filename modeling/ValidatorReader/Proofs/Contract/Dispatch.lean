import ValidatorReader.Proofs.Abi.RoundTrip
import ValidatorReader.Proofs.Contract.Recording
import ValidatorReader.Proofs.Events

/-!
# One request for each call

A call of the contract is turned down before anything is asked, because of its name, its contract or
its arguments, or it becomes exactly one request to the simulator. That request is the same however
the call is made. What the simulator answers is read once, its failures pass through, and nothing but
log records follows.
-/

namespace ValidatorReader

/-! ## Payloads without arguments -/

namespace Signature

variable {f : Signature}

/-- A call without arguments is a bare selector. -/
theorem encodeCall_nil (h : f.argumentTypes = []) : f.encodeCall (.tuple []) = .ok f.selector := by
  have hencoded : Abi.encode f.argumentTypes [] = .ok [] := by
    rw [h]
    rfl
  have hcount : ¬ ([] : List Value).length ≠ f.argumentTypes.length := by simp [h]
  unfold encodeCall
  simp only [Value.items?]
  rw [if_neg hcount, hencoded]
  show Except.ok (f.selector ++ []) = _
  rw [List.append_nil]

theorem encodeCall_nil_of_ne (h : f.argumentTypes ≠ []) :
    f.encodeCall (.tuple []) =
      .error (.signature (.wrongArgumentCount f.canonical f.argumentTypes.length 0)) := by
  have hcount : ([] : List Value).length ≠ f.argumentTypes.length :=
    (List.length_pos_iff.2 h).ne
  unfold encodeCall
  simp only [Value.items?]
  rw [if_pos hcount, List.length_nil]

end Signature

/-! ## Registered names -/

namespace Registry

variable {r : Registry} {f : Signature} {name : String}

/-- A name finds the one signature that has it. -/
theorem find?_eq_some_iff : r.find? name = some f ↔ f ∈ r.signatures ∧ f.name = name := by
  constructor
  · intro h
    exact ⟨List.mem_of_find?_eq_some h, by simpa using List.find?_some h⟩
  · rintro ⟨hf, rfl⟩
    cases hfound : r.find? f.name with
    | none =>
      have hall := List.find?_eq_none.1 hfound f hf
      simp at hall
    | some g =>
      have hname : g.name = f.name := by simpa using List.find?_some hfound
      rw [List.inj_on_of_nodup_map r.nodup_names (List.mem_of_find?_eq_some hfound) hf hname]

theorem find?_eq_none_iff : r.find? name = none ↔ name ∉ r.names := by
  rw [find?, List.find?_eq_none]
  simp [names]

theorem get_name (h : f ∈ r.signatures) : r.get (.text f.name) = .ok f := by
  have hfound : r.find? f.name = some f := find?_eq_some_iff.2 ⟨h, rfl⟩
  simp only [get, Value.unhashable?, hfound]

/-- What is found in a registry is found under its name. -/
theorem mem_of_get {value : Value} (h : r.get value = .ok f) :
    f ∈ r.signatures ∧ value = .text f.name := by
  unfold get at h
  split at h
  · cases h
  · split at h
    · split at h
      · rename_i hfound
        obtain ⟨hf, rfl⟩ := find?_eq_some_iff.1 hfound
        obtain rfl := Except.ok.inj h
        exact ⟨hf, rfl⟩
      · cases h
    · cases h

theorem get_of_notMem (h : name ∉ r.names) :
    r.get (.text name) = .error (.call (unknownFunction (.text name))) := by
  have hfound : r.find? name = none := find?_eq_none_iff.2 h
  simp only [get, Value.unhashable?, hfound]

end Registry

namespace Controller

/-! ## Calls -/

variable {c : Controller} {block contract : Value} {f : Signature} {a : Address} {e : Failure}

/-- The request for a call of a function without arguments, all its fields written out. -/
def plainRequest (f : Signature) (a : Address) (block : Value) : SimulationRequest where
  parameters := {
    sender := none
    recipient := a
    gasLimit := -1
    gasPrice := none
    value := none
    payload := f.selector }
  policy := {
    validateSignature := false
    checkNonce := false
    allowExceedingBalance := true
    allowFutureNonce := true }
  tracing := .none
  block := block

theorem request_selector (f : Signature) (a : Address) (block : Value) :
    request a f.selector block = plainRequest f a block := rfl

theorem callFunction_of_refused (h : Address.coerce contract = .error e) (f : Signature) :
    c.callFunction block f contract = .fail e := by
  rw [callFunction, h, Traced.ofExcept_error_bind]

theorem callFunction_of_arguments (h : Address.coerce contract = .ok a)
    (hf : f.argumentTypes ≠ []) :
    c.callFunction block f contract =
      .fail (.signature (.wrongArgumentCount f.canonical f.argumentTypes.length 0)) := by
  rw [callFunction, h, Traced.ofExcept_ok_bind, Signature.encodeCall_nil_of_ne hf,
    Traced.ofExcept_error_bind]

/-- A call is recorded, then asked of the simulator, and ends as the simulator does. -/
theorem callFunction_of_coerced (h : Address.coerce contract = .ok a)
    (hf : f.argumentTypes = []) :
    c.callFunction block f contract =
      ⟨.logged (dispatchRecord f a block) :: .simulated (plainRequest f a block) ::
        (c.simulator (plainRequest f a block)).events,
        (c.simulator (plainRequest f a block)).result⟩ := by
  rw [callFunction, h, Traced.ofExcept_ok_bind, Signature.encodeCall_nil hf,
    Traced.ofExcept_ok_bind, Traced.emit_bind]
  simp only [request_selector, Traced.emit_bind]

theorem read_of_refused (h : Address.coerce contract = .error e) (f : Signature) :
    c.read block f contract = .fail e := by
  rw [read, h, Traced.ofExcept_error_bind]

/-- The entries that a reading gives for its errors. -/
def readingEntries (a : Address) (block : Value) : Entries :=
  [("contract", .text a.toHex), ("block_number", block)]

theorem notReserved_readingEntries (a : Address) (block : Value) :
    ∀ name ∈ (readingEntries a block).names, name ∉ Log.reservedKeys := by
  show ∀ name ∈ ["contract", "block_number"], name ∉ Log.reservedKeys
  decide

theorem read_of_failure (h : Address.coerce contract = .ok a) (hf : f.argumentTypes = [])
    (hanswer : (c.simulator (plainRequest f a block)).result = .error e) :
    c.read block f contract =
      ⟨.logged (dispatchRecord f a block) :: .simulated (plainRequest f a block) ::
        (c.simulator (plainRequest f a block)).events, .error e⟩ := by
  have hcall : c.callFunction block f (.address a) = _ := callFunction_of_coerced rfl hf
  rw [read, h, Traced.ofExcept_ok_bind, hcall]
  exact Traced.bind_error _ hanswer

/-- A reading that is answered, written out: its record, its request, and what is concluded. -/
theorem read_of_answer {result : Option SimulationResult} (h : Address.coerce contract = .ok a)
    (hf : f.argumentTypes = [])
    (hanswer : (c.simulator (plainRequest f a block)).result = .ok result) :
    c.read block f contract =
      ⟨.logged (dispatchRecord f a block) :: .simulated (plainRequest f a block) ::
        (c.simulator (plainRequest f a block)).events ++
          (recordRejection (Reading.ofResult result f c.decoder
            (Reading.detailsValue (some (readingEntries a block))))).events,
        (recordRejection (Reading.ofResult result f c.decoder
          (Reading.detailsValue (some (readingEntries a block))))).result⟩ := by
  have hcall : c.callFunction block f (.address a) = _ := callFunction_of_coerced rfl hf
  rw [read, h, Traced.ofExcept_ok_bind, hcall]
  exact Traced.bind_ok _ hanswer

/-! ## Readings by name -/

theorem call_name (h : f ∈ registry.signatures) :
    c.call (.text f.name) block contract = c.read block f contract := by
  rw [call, Registry.get_name h, Traced.ofExcept_ok_bind]

theorem call_of_unknown {name : String} (h : name ∉ registry.names) :
    c.call (.text name) block contract = .fail (.call (Registry.unknownFunction (.text name))) := by
  rw [call, Registry.get_of_notMem h, Traced.ofExcept_error_bind]

theorem argumentTypes_of_registered (h : f ∈ registry.signatures) : f.argumentTypes = [] := by
  have hf : f = ValidatorReader.getValidators ∨ f = ValidatorReader.getEpochCounter := by
    simpa [registry, Registry.validatorContract] using h
  rcases hf with rfl | rfl <;> rfl

/-- A reading that asks its simulator once. The one request carries the four bytes of the selector,
nothing but records follows the answer, a failure of the simulator is that of the reading, and an
answer is checked as it came. The end of the check is that of the reading, unless a call error that the
decoder raised cannot be recorded. -/
structure AsksOnce (c : Controller) (f : Signature) (a : Address) (block : Value)
    (reading : Traced Reading) : Prop where
  length_payload : (plainRequest f a block).parameters.payload.length = 4
  events : ∃ records : List LogRecord,
    reading.events = .logged (dispatchRecord f a block) :: .simulated (plainRequest f a block) ::
      (c.simulator (plainRequest f a block)).events ++ records.map .logged
  failure : ∀ e, (c.simulator (plainRequest f a block)).result = .error e →
    reading.result = .error e
  answer : ∀ result, (c.simulator (plainRequest f a block)).result = .ok result →
    reading.result = (recordRejection (Reading.ofResult result f c.decoder
      (Reading.detailsValue (some (readingEntries a block))))).result
  unaltered : ∀ result, (c.simulator (plainRequest f a block)).result = .ok result →
    (∀ e, decodingFailure? f c.decoder result ≠ some (.call e)) →
    reading.result = (Reading.ofResult result f c.decoder
      (Reading.detailsValue (some (readingEntries a block)))).result

/-- A reading sends one request, and never a second one after its answer. -/
theorem asksOnce_read (h : Address.coerce contract = .ok a) (hf : f.argumentTypes = []) :
    AsksOnce c f a block (c.read block f contract) where
  length_payload := Abi.length_selector f
  events := by
    cases hanswer : (c.simulator (plainRequest f a block)).result with
    | error e =>
      rw [read_of_failure h hf hanswer]
      exact ⟨[], by simp⟩
    | ok result =>
      obtain ⟨outcome, houtcome⟩ :=
        Reading.exists_concludes f c.decoder (readingEntries a block) result
      have hreading : Reading.ofResult result f c.decoder
          (Reading.detailsValue (some (readingEntries a block))) = outcome :=
        Reading.ofResult_eq_of_concludes houtcome
      obtain ⟨records, hrecords⟩ := houtcome.exists_records
      obtain ⟨records', hrecords'⟩ := exists_records_recordRejection hrecords
      -- The records of the check, with the one that a rejection adds, are all that follows.
      rw [read_of_answer h hf hanswer, hreading]
      exact ⟨records', by rw [hrecords']⟩
  failure e hanswer := by rw [read_of_failure h hf hanswer]
  answer result hanswer := by rw [read_of_answer h hf hanswer]
  unaltered result hanswer hown := by
    obtain ⟨outcome, houtcome⟩ :=
      Reading.exists_concludes f c.decoder (readingEntries a block) result
    have hreading : Reading.ofResult result f c.decoder
        (Reading.detailsValue (some (readingEntries a block))) = outcome :=
      Reading.ofResult_eq_of_concludes houtcome
    rw [read_of_answer h hf hanswer, hreading]
    exact result_recordRejection_of_own (notReserved_readingEntries a block) houtcome hown

/-- However a call is made, it fails without a question for an unknown name, a refused contract or a
function with arguments, and asks exactly once otherwise. -/
theorem asksOnce_or_fails (c : Controller) (block contract : Value) :
    c.call (.text "getValidators") block contract = c.getValidators block contract ∧
    c.call (.text "getEpochCounter") block contract = c.getEpochCounter block contract ∧
    (∀ name : String, name ∉ ["getValidators", "getEpochCounter"] →
      c.call (.text name) block contract = .fail (.call {
        kind := .unknownFunction
        message := "Unknown smart contract function: " ++ name
        details := .dict [("function", .text name)] })) ∧
    (∀ e, Address.coerce contract = .error e →
      (∀ f ∈ registry.signatures, c.call (.text f.name) block contract = .fail e) ∧
      ∀ f, c.callFunction block f contract = .fail e) ∧
    ∀ a, Address.coerce contract = .ok a →
      (∀ f ∈ registry.signatures,
        AsksOnce c f a block (c.call (.text f.name) block contract)) ∧
      ∀ f, (f.argumentTypes ≠ [] → c.callFunction block f contract =
          .fail (.signature (.wrongArgumentCount f.canonical f.argumentTypes.length 0))) ∧
        (f.argumentTypes = [] → f.selector.length = 4 ∧ c.callFunction block f contract =
          ⟨.logged (dispatchRecord f a block) :: .simulated (plainRequest f a block) ::
            (c.simulator (plainRequest f a block)).events,
            (c.simulator (plainRequest f a block)).result⟩) := by
  refine ⟨?_, ?_, ?_, ?_, ?_⟩
  · exact call_name (f := ValidatorReader.getValidators) (by decide)
  · exact call_name (f := ValidatorReader.getEpochCounter) (by decide)
  · intro name hname
    exact call_of_unknown hname
  · intro e hrefused
    refine ⟨?_, callFunction_of_refused hrefused⟩
    intro f hf
    rw [call_name hf, read_of_refused hrefused]
  · intro a hcoerced
    constructor
    · intro f hf
      rw [call_name hf]
      exact asksOnce_read hcoerced (argumentTypes_of_registered hf)
    · intro f
      exact ⟨callFunction_of_arguments hcoerced,
        fun hf ↦ ⟨Abi.length_selector f, callFunction_of_coerced hcoerced hf⟩⟩

/-- A controller whose simulator is out of reach. -/
def unreachable : Controller where
  simulator := fun _ ↦ .fail (.node (.transport .timeout "timed out"))

/-- A function that takes a number. -/
def numbered : Signature where
  name := "getValidatorsAt"
  argumentTypes := [.uint256]

/-- With a node that is not reached: an unknown name and a bad contract fail without a request,
and a request fails as the node does. -/
theorem asksOnce_or_fails_unreachable :
    "getValidatorsAt" ∉ ["getValidators", "getEpochCounter"] ∧
    (unreachable.call (.text "getValidatorsAt") (.int 7) (.int 7)).events = [] ∧
    Address.coerce (.int 7) = .error (.address (.wrongSize 7)) ∧
    unreachable.call (.text "getValidators") (.int 7) (.int 7) =
      .fail (.address (.wrongSize 7)) ∧
    ∃ a, Address.coerce (.text "0x1") = .ok a ∧
      unreachable.callFunction (.int 7) numbered (.text "0x1") =
        .fail (.signature (.wrongArgumentCount "getValidatorsAt(uint256)" 1 0)) ∧
      (unreachable.call (.text "getValidators") (.int 7) (.text "0x1")).result =
        .error (.node (.transport .timeout "timed out")) := by
  have hname : "getValidatorsAt" ∉ ["getValidators", "getEpochCounter"] := by decide
  have hrefused : Address.coerce (.int 7) = .error (.address (.wrongSize 7)) := rfl
  have hregistered : ValidatorReader.getValidators ∈ registry.signatures := by decide
  obtain ⟨a, hcoerced⟩ : ∃ a, Address.coerce (.text "0x1") = .ok a := ⟨_, rfl⟩
  obtain ⟨_, _, hunknown, hfails, _⟩ := asksOnce_or_fails unreachable (.int 7) (.int 7)
  obtain ⟨_, _, _, _, hasks⟩ := asksOnce_or_fails unreachable (.int 7) (.text "0x1")
  obtain ⟨hreading, hcall⟩ := hasks a hcoerced
  exact ⟨hname, by rw [hunknown _ hname]; rfl, hrefused, (hfails _ hrefused).1 _ hregistered,
    a, hcoerced, (hcall numbered).1 (by decide), (hreading _ hregistered).failure _ rfl⟩

end Controller

end ValidatorReader
