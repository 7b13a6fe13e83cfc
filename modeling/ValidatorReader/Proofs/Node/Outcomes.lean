import Mathlib
import ValidatorReader.Node.Basic
import ValidatorReader.Proofs.Events

/-!
# What a node's answers come to

Output, reverts, missing blocks, other errors of a call and failures that have nothing to do with it
are told apart by the kind of the error and by the text of the error object in the node's response.
They are given here as a relation with one rule for each way to end, and a call on the node ends by
exactly one of them as long as the message of an error object is a text. A message that is no text
stops the classification itself.
-/

namespace ValidatorReader.Node

/-! ## The text of an error -/

theorem occursIn_eq_true_iff {part cs : List Char} : occursIn part cs = true ↔ part <:+: cs := by
  induction cs with
  | nil => simp [occursIn]
  | cons c cs ih =>
    rw [occursIn, Bool.or_eq_true, List.isPrefixOf_iff_prefix, ih, List.infix_cons_iff]

/-- Whether a text says that a block is missing, by one of three phrases in letters of any case. -/
def NamesMissingBlock (text : String) : Prop :=
  ∃ phrase ∈ ["header not found", "unknown block", "block not found"],
    phrase.toList <:+: (Text.lower text).toList

theorem saysBlockMissing_eq_true_iff {text : String} :
    saysBlockMissing text = true ↔ NamesMissingBlock text := by
  simp only [saysBlockMissing, List.any_eq_true, occursIn_eq_true_iff]
  rfl

/-- The error object in a response, which must be a dictionary that has one. -/
def HasError (response error : Value) : Prop :=
  ∃ entries, response = .dict entries ∧ Entries.get? entries "error" = some error

theorem responseError?_eq_some_iff {response error : Value} :
    responseError? response = some error ↔ HasError response error := by
  cases response <;> simp [responseError?, HasError]

/-- The text of an error object: its message, the empty text if a dictionary has none, and the whole
error if it is no dictionary. -/
inductive HasText : Value → String → Prop
  | message {entries : Entries} {text : String}
    (h : entries.get? "message" = some (.text text)) : HasText (.dict entries) text
  | noMessage {entries : Entries} (h : entries.get? "message" = none) :
    HasText (.dict entries) ""
  | whole {error : Value} (h : ∀ entries, error ≠ .dict entries) : HasText error error.display

/-- An error object whose message is no text. -/
inductive LacksText : Value → Value → Prop
  | intro {entries : Entries} {message : Value} (h : entries.get? "message" = some message)
    (other : ∀ text, message ≠ .text text) : LacksText (.dict entries) message

/-- The text of an error is found where the error has one. -/
theorem errorText_of_hasText {error : Value} {text : String} (h : HasText error text) :
    errorText error = .ok text := by
  cases h with
  | message h => simp [errorText, h]
  | noMessage h => simp [errorText, h]
  | whole h =>
    cases error with
    | dict entries => exact absurd rfl (h entries)
    | _ => rfl

theorem errorText_of_lacksText {error message : Value} (h : LacksText error message) :
    errorText error = .error (.noMember message.kind "lower") := by
  obtain ⟨hmessage, hother⟩ := h
  simp only [errorText, hmessage, Option.getD_some]

/-- An error object has a text or a message that is none. -/
theorem hasText_or_lacksText (error : Value) :
    (∃ text, HasText error text) ∨ ∃ message, LacksText error message := by
  by_cases hdict : ∃ entries, error = .dict entries
  · obtain ⟨entries, rfl⟩ := hdict
    cases hmessage : Entries.get? entries "message" with
    | none => exact .inl ⟨_, .noMessage hmessage⟩
    | some message =>
      by_cases htext : ∃ text, message = .text text
      · obtain ⟨text, rfl⟩ := htext
        exact .inl ⟨_, .message hmessage⟩
      · exact .inr ⟨_, .intro hmessage (not_exists.1 htext)⟩
  · exact .inl ⟨_, .whole (not_exists.1 hdict)⟩

/-! ## Classification -/

variable {node : Node} {p : CallParameters} {block : Value}

theorem classify_of_hasText {contract : Address} {kind : RpcErrorKind} {message text : String}
    {response error : Value} (herror : HasError response error) (htext : HasText error text) :
    classify contract block (.rpc kind message response) =
      if saysBlockMissing text then missingBlock block
      else ⟨[.logged (errorRecord contract block message)], .ok (some (.failed (some message) []))⟩ := by
  simp only [classify, responseError?_eq_some_iff.2 herror, errorText_of_hasText htext,
    Except.mapError, Traced.ofExcept_ok_bind, Traced.emit_bind]
  rfl

theorem classify_of_lacksText {contract : Address} {kind : RpcErrorKind} {text : String}
    {response error message : Value} (herror : HasError response error)
    (hlacks : LacksText error message) :
    classify contract block (.rpc kind text response) =
      .fail (.shape (.noMember message.kind "lower")) := by
  simp only [classify, responseError?_eq_some_iff.2 herror, errorText_of_lacksText hlacks,
    Except.mapError, Traced.ofExcept_error_bind]

/-- Where the response has no error in it, the failure is passed on as it came. -/
theorem classify_of_no_error {contract : Address} {kind : RpcErrorKind} {message : String}
    {response : Value} (h : ∀ error, ¬ HasError response error) :
    classify contract block (.rpc kind message response) =
      .fail (.node (.rpc kind message response)) := by
  have hnone : responseError? response = none := by
    rw [Option.eq_none_iff_forall_ne_some]
    intro error herror
    exact h error (responseError?_eq_some_iff.1 herror)
  simp only [classify, hnone]

theorem process_of_ok {output : List UInt8} (h : node.call p.transaction block = .ok output) :
    node.process p block =
      ⟨[.nodeCalled p.transaction block], .ok (some (.successful output))⟩ := by
  rw [process, Traced.emit_bind, h]
  rfl

theorem process_of_error {e : NodeError} (h : node.call p.transaction block = .error e) :
    node.process p block =
      ⟨.nodeCalled p.transaction block :: (classify p.recipient block e).events,
        (classify p.recipient block e).result⟩ := by
  rw [process, Traced.emit_bind, h]

/-- The record of a call that gave no output: an event at a block. -/
def outcomeRecord (severity : Severity) (event : String) (block : Value) (message : String) :
    LogRecord where
  logger := "validator_contract.web3_simulator"
  severity := severity
  message := message
  extra := [("event", .text event), ("block_number", block)]

/-- How a call on a node ends, given the node's answer. Each rule is for one kind of answer; the one
use of the node is the first event, and a record may follow. -/
inductive Concludes (p : CallParameters) (block : Value) :
    Except NodeError (List UInt8) → Traced (Option SimulationResult) → Prop
  | output {data : List UInt8} :
    Concludes p block (.ok data)
      ⟨[.nodeCalled p.transaction block], .ok (some { valid := true, output := data })⟩
  | reverted {kind : RevertKind} {message data : Value} {reason : String}
    (shown : (NodeError.reverted kind message data).message = reason) :
    Concludes p block (.error (.reverted kind message data))
      ⟨[.nodeCalled p.transaction block, .logged (outcomeRecord .info
          "validator_contract.call_reverted" block
          s!"Simulated call to {p.recipient.toHex} reverted: {reason}")],
        .ok (some { valid := true, reverted := true, revertReason := some reason })⟩
  | blockNotFound {message : String} {response : Value} :
    Concludes p block (.error (.blockNotFound message response))
      ⟨[.nodeCalled p.transaction block, .logged (outcomeRecord .warning
          "validator_contract.block_not_found" block
          s!"Block {block.display} not found, cannot simulate call")], .ok none⟩
  | missingBlock {kind : RpcErrorKind} {message text : String} {response error : Value}
    (member : HasError response error) (worded : HasText error text)
    (missing : NamesMissingBlock text) :
    Concludes p block (.error (.rpc kind message response))
      ⟨[.nodeCalled p.transaction block, .logged (outcomeRecord .warning
          "validator_contract.block_not_found" block
          s!"Block {block.display} not found, cannot simulate call")], .ok none⟩
  | errored {kind : RpcErrorKind} {message text : String} {response error : Value}
    (member : HasError response error) (worded : HasText error text)
    (other : ¬ NamesMissingBlock text) :
    Concludes p block (.error (.rpc kind message response))
      ⟨[.nodeCalled p.transaction block, .logged (outcomeRecord .info
          "validator_contract.call_errored" block
          s!"Simulated call to {p.recipient.toHex} failed on the node: {message}")],
        .ok (some { valid := true, reverted := true, revertReason := some message })⟩
  | noError {kind : RpcErrorKind} {message : String} {response : Value}
    (absent : ∀ error, ¬ HasError response error) :
    Concludes p block (.error (.rpc kind message response))
      ⟨[.nodeCalled p.transaction block], .error (.node (.rpc kind message response))⟩
  | transport {kind : TransportErrorKind} {message : String} :
    Concludes p block (.error (.transport kind message))
      ⟨[.nodeCalled p.transaction block], .error (.node (.transport kind message))⟩
  | foreign {kind : ForeignErrorKind} {message : String} :
    Concludes p block (.error (.foreign kind message))
      ⟨[.nodeCalled p.transaction block], .error (.node (.foreign kind message))⟩

/-- Whether the message of an error object in an answer, if there is one, is a text. -/
def MessageIsText (answer : Except NodeError (List UInt8)) : Prop :=
  ∀ kind text response error message, answer = .error (.rpc kind text response) →
    HasError response error → ¬ LacksText error message

/-- The relation allows no outcome but that of the call. -/
theorem process_eq_of_concludes {outcome : Traced (Option SimulationResult)}
    (h : Concludes p block (node.call p.transaction block) outcome) :
    node.process p block = outcome := by
  -- The rules speak of the answer alone; only its name remains of the node.
  generalize hanswer : node.call p.transaction block = answer at h
  cases h with
  | output => exact process_of_ok hanswer
  | reverted shown =>
    subst shown
    exact process_of_error hanswer
  | blockNotFound => exact process_of_error hanswer
  | missingBlock member worded missing =>
    rw [process_of_error hanswer, classify_of_hasText member worded,
      if_pos (saysBlockMissing_eq_true_iff.2 missing)]
    rfl
  | errored member worded other =>
    rw [process_of_error hanswer, classify_of_hasText member worded,
      if_neg (mt saysBlockMissing_eq_true_iff.1 other)]
    rfl
  | noError absent =>
    rw [process_of_error hanswer, classify_of_no_error absent]
    rfl
  | transport => exact process_of_error hanswer
  | foreign => exact process_of_error hanswer

/-- Some rule applies to every answer whose message is a text. -/
theorem exists_concludes {answer : Except NodeError (List UInt8)} (h : MessageIsText answer)
    (p : CallParameters) (block : Value) : ∃ outcome, Concludes p block answer outcome := by
  rcases answer with e | data
  · cases e with
    | reverted kind message data => exact ⟨_, .reverted rfl⟩
    | blockNotFound message response => exact ⟨_, .blockNotFound⟩
    | transport kind message => exact ⟨_, .transport⟩
    | foreign kind message => exact ⟨_, .foreign⟩
    | rpc kind text response =>
      by_cases hmember : ∃ error, HasError response error
      · obtain ⟨error, member⟩ := hmember
        rcases hasText_or_lacksText error with ⟨text, worded⟩ | ⟨message, hlacks⟩
        · by_cases hmissing : NamesMissingBlock text
          · exact ⟨_, .missingBlock member worded hmissing⟩
          · exact ⟨_, .errored member worded hmissing⟩
        -- The one answer without a rule.
        · exact absurd hlacks (h _ _ _ _ _ rfl member)
      · exact ⟨_, .noError (not_exists.1 hmember)⟩
  · exact ⟨_, .output⟩

theorem Concludes.nodeUses {answer : Except NodeError (List UInt8)}
    {outcome : Traced (Option SimulationResult)} (h : Concludes p block answer outcome) :
    outcome.nodeUses = [.nodeCalled p.transaction block] := by
  cases h <;> rfl

/-- A call on a node uses it once and ends as the relation says, whatever the node answers, as long
as the message of an error object is a text. -/
theorem process_eq_iff_concludes (node : Node) (p : CallParameters) (block : Value)
    (texts : MessageIsText (node.call p.transaction block)) :
    (∀ outcome, node.process p block = outcome ↔
      Concludes p block (node.call p.transaction block) outcome) ∧
    (node.process p block).nodeUses = [.nodeCalled p.transaction block] := by
  obtain ⟨outcome, houtcome⟩ := exists_concludes texts p block
  have hprocess : node.process p block = outcome := process_eq_of_concludes houtcome
  constructor
  · intro outcome'
    constructor
    · intro h
      rwa [← h, hprocess]
    · exact process_eq_of_concludes
  · rw [hprocess]
    exact houtcome.nodeUses

/-- A node that answers every call with an error object. -/
def failing (error : Value) : Node where
  call _ _ := .error (.rpc .general "the call failed" (.dict [("id", .int 1), ("error", error)]))
  blockNumber := .ok (.int 0)

/-- A call with a gas limit and a payload. -/
def limitedCall : CallParameters where
  sender := none
  recipient := ⟨List.replicate 20 7, rfl⟩
  gasLimit := 21000
  gasPrice := none
  value := some 0
  payload := [1, 2, 3, 4]

theorem hasError_failing (error : Value) :
    HasError (.dict [("id", .int 1), ("error", error)]) error :=
  ⟨_, rfl, rfl⟩

/-- The message names the block in letters of both cases. -/
theorem process_shouted :
    let node := failing (.dict [("code", .int (-32000)), ("message", .text "Unknown BLOCK 0x63")])
    MessageIsText (node.call limitedCall.transaction (.int 99)) ∧
    (node.process limitedCall (.int 99)).result = .ok none ∧
    (node.process limitedCall (.int 99)).nodeUses =
      [.nodeCalled limitedCall.transaction (.int 99)] := by
  intro node
  have htext : HasText (.dict [("code", .int (-32000)), ("message", .text "Unknown BLOCK 0x63")])
      "Unknown BLOCK 0x63" := .message rfl
  have hmissing : NamesMissingBlock "Unknown BLOCK 0x63" :=
    ⟨"unknown block", by decide, by decide +kernel⟩
  have htexts : MessageIsText (node.call limitedCall.transaction (.int 99)) := by
    rintro _ _ _ _ _ ⟨⟩ ⟨_, ⟨⟩, ⟨⟩⟩ ⟨⟨⟩, hother⟩
    exact hother _ rfl
  obtain ⟨hconcludes, huses⟩ := process_eq_iff_concludes node limitedCall (.int 99) htexts
  exact ⟨htexts, by rw [(hconcludes _).2 (.missingBlock (hasError_failing _) htext hmissing)], huses⟩

/-! ## Failures of the classification itself -/

/-- Whether a call gives an answer or passes on what the node failed with. -/
def PassesOn (node : Node) (p : CallParameters) (block : Value) : Prop :=
  (∃ answer, (node.process p block).result = .ok answer) ∨
    ∃ e, node.call p.transaction block = .error e ∧ (node.process p block).result = .error (.node e)

/-- An error with a text is no answer or a failed simulation, and nothing else. -/
theorem result_of_hasText {kind : RpcErrorKind} {message text : String} {response error : Value}
    (hanswer : node.call p.transaction block = .error (.rpc kind message response))
    (member : HasError response error) (worded : HasText error text) :
    (node.process p block).result = .ok none ∨
      (node.process p block).result = .ok (some (.failed (some message) [])) := by
  rw [process_of_error hanswer, classify_of_hasText member worded]
  by_cases hmissing : saysBlockMissing text
  · exact .inl (by rw [if_pos hmissing]; rfl)
  · exact .inr (by rw [if_neg hmissing])

theorem result_of_lacksText {kind : RpcErrorKind} {text : String} {response error message : Value}
    (hanswer : node.call p.transaction block = .error (.rpc kind text response))
    (member : HasError response error) (lacks : LacksText error message) :
    (node.process p block).result = .error (.shape (.noMember message.kind "lower")) := by
  rw [process_of_error hanswer, classify_of_lacksText member lacks]
  rfl

/-- An error without a text makes the classification fail by itself. -/
theorem not_passesOn_of_lacksText {kind : RpcErrorKind} {text : String}
    {response error message : Value}
    (hanswer : node.call p.transaction block = .error (.rpc kind text response))
    (member : HasError response error) (lacks : LacksText error message) :
    ¬ PassesOn node p block := by
  have hresult := result_of_lacksText hanswer member lacks
  rintro (⟨answer, hok⟩ | ⟨e, _, herror⟩)
  · rw [hresult] at hok
    cases hok
  · rw [hresult] at herror
    cases herror

/-- One case for each rule. -/
theorem Concludes.passesOn (h : Concludes p block (node.call p.transaction block)
    (node.process p block)) : PassesOn node p block := by
  unfold PassesOn
  generalize node.process p block = outcome, node.call p.transaction block = answer at h
  cases h with
  | noError => exact .inr ⟨_, rfl, rfl⟩
  | transport => exact .inr ⟨_, rfl, rfl⟩
  | foreign => exact .inr ⟨_, rfl, rfl⟩
  | _ => exact .inl ⟨_, rfl⟩

/-- A call fails on its own exactly if the message of the error object is no text, and then because
that message cannot be put in lower case. An error object with a text always gives no result or a
failed one. -/
theorem passesOn_iff_messageIsText (node : Node) (p : CallParameters) (block : Value) :
    (PassesOn node p block ↔ MessageIsText (node.call p.transaction block)) ∧
    ∀ kind message response error,
      node.call p.transaction block = .error (.rpc kind message response) →
      HasError response error →
      (∀ text, HasText error text → (node.process p block).result = .ok none ∨
        (node.process p block).result = .ok (some (.failed (some message) []))) ∧
      ∀ member, LacksText error member →
        (node.process p block).result = .error (.shape (.noMember member.kind "lower")) := by
  refine ⟨⟨?_, ?_⟩, ?_⟩
  · intro hpasses kind text response error message hanswer member lacks
    exact not_passesOn_of_lacksText hanswer member lacks hpasses
  · intro texts
    obtain ⟨outcome, houtcome⟩ := exists_concludes texts p block
    rw [← process_eq_of_concludes houtcome] at houtcome
    exact houtcome.passesOn
  · intro kind message response error hanswer member
    exact ⟨fun text worded ↦ result_of_hasText hanswer member worded,
      fun _ lacks ↦ result_of_lacksText hanswer member lacks⟩

/-- An error that is a list has a text, that of the whole list. -/
theorem passesOn_listed :
    let node := failing (.list [.text "header not found", .null])
    HasText (.list [.text "header not found", .null])
      (Value.list [.text "header not found", .null]).display ∧
    ((node.process limitedCall (.int 99)).result = .ok none ∨
      (node.process limitedCall (.int 99)).result =
        .ok (some (.failed (some "the call failed") []))) := by
  intro node
  have htext : HasText (.list [.text "header not found", .null])
      (Value.list [.text "header not found", .null]).display := .whole nofun
  exact ⟨htext, ((passesOn_iff_messageIsText node limitedCall (.int 99)).2 _ _ _ _ rfl
    (hasError_failing _)).1 _ htext⟩

/-- A message that is null stops the classification. -/
theorem not_passesOn_null :
    let node := failing (.dict [("message", .null)])
    (node.process limitedCall (.int 99)).result = .error (.shape (.noMember .null "lower")) ∧
    ¬ PassesOn node limitedCall (.int 99) := by
  intro node
  have hlacks : LacksText (.dict [("message", .null)]) .null := .intro rfl nofun
  exact ⟨result_of_lacksText rfl (hasError_failing _) hlacks,
    not_passesOn_of_lacksText rfl (hasError_failing _) hlacks⟩

end ValidatorReader.Node
