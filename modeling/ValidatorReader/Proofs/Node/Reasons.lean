import ValidatorReader.Proofs.Node.Outcomes
import ValidatorReader.Proofs.Text.Quoted

/-!
# Reasons of failed calls

The message of a node's error is the reason of the failed result. The message of a revert is shown in a
pair with its data, as quoted values are: it stands there as it is unless quoting changes it, and a
message with a line feed or another character that is not printable is never found in its reason.
-/

namespace ValidatorReader.Node

open Text (IsPrintable StandsQuoted isPrintable)

variable {node : Node} {p : CallParameters} {block data : Value} {m reason : String}

/-- Whether a call gives an unsuccessful result with a reason. -/
def FailsFor (node : Node) (p : CallParameters) (block : Value) (reason : String) : Prop :=
  ∃ result, (node.process p block).result = .ok (some result) ∧ result.isSuccessful = false ∧
    result.revertReason = some reason

/-- Whether a call gives an unsuccessful result in whose reason a text stands as it is. -/
def FailsTelling (node : Node) (p : CallParameters) (block : Value) (m : String) : Prop :=
  ∃ reason, FailsFor node p block reason ∧ m.toList <:+: reason.toList

/-- A call fails for one reason at most. -/
theorem FailsFor.unique {reason' : String} (h : FailsFor node p block reason)
    (h' : FailsFor node p block reason') : reason = reason' := by
  obtain ⟨result, hresult, -, hreason⟩ := h
  obtain ⟨result', hresult', -, hreason'⟩ := h'
  have hsame : result = result' := Option.some.inj (Except.ok.inj (hresult.symm.trans hresult'))
  rw [← hsame, hreason] at hreason'
  exact Option.some.inj hreason'

theorem FailsFor.failsTelling_iff (h : FailsFor node p block reason) :
    FailsTelling node p block m ↔ m.toList <:+: reason.toList := by
  constructor
  · intro htelling
    obtain ⟨reason', hfails, hinfix⟩ := htelling
    rwa [h.unique hfails]
  · exact fun hinfix ↦ ⟨reason, h, hinfix⟩

/-! ## Reverts -/

/-- The reason of a revert: its message and its data as a pair of quoted values. -/
def quotedPair (message data : Value) : String :=
  "(" ++ (message.quoted ++ ", " ++ data.quoted) ++ ")"

theorem quoted_pair (message data : Value) :
    (Value.tuple [message, data]).quoted = quotedPair message data := by
  rw [Value.quoted]
  · simp only [Value.quotedItems, Value.commaSeparated, String.intercalate_cons_cons,
      String.intercalate_singleton, quotedPair]
  · intro item hitem
    cases hitem

theorem isPrintable_quotedPair (message data : Value) : IsPrintable (quotedPair message data) := by
  rw [← quoted_pair]
  exact Value.isPrintable_quoted _

/-- The message of an error that was raised with two arguments shows them as a pair. -/
theorem message_reverted {kind : RevertKind} (hkind : kind ≠ .offchainLookup) (message data : Value) :
    (NodeError.reverted kind message data).message = quotedPair message data := by
  cases kind with
  | offchainLookup => exact absurd rfl hkind
  | _ => exact quoted_pair message data

/-- A message that needs no escape stands in the pair as it is. -/
theorem infix_quotedPair (h : StandsQuoted m) (data : Value) :
    m.toList <:+: (quotedPair (.text m) data).toList := by
  apply h.infix_quoted.trans
  rw [quotedPair, Value.quoted]
  simp only [String.toList_append, List.append_assoc]
  exact ⟨_, _, List.append_assoc _ _ _⟩

theorem failsFor_of_reverted {kind : RevertKind} {message : Value} (hkind : kind ≠ .offchainLookup)
    (h : node.call p.transaction block = .error (.reverted kind message data)) :
    FailsFor node p block (quotedPair message data) := by
  have hconcludes : Concludes p block (.error (.reverted kind message data)) _ :=
    .reverted (message_reverted hkind message data)
  rw [← h] at hconcludes
  exact ⟨_, congrArg Traced.result (process_eq_of_concludes hconcludes), rfl, rfl⟩

/-! ## Errors of the node -/

theorem failsFor_of_errored {kind : RpcErrorKind} {message text : String} {response error : Value}
    (h : node.call p.transaction block = .error (.rpc kind message response))
    (member : HasError response error) (worded : HasText error text)
    (other : ¬ NamesMissingBlock text) : FailsFor node p block message := by
  have hconcludes : Concludes p block (.error (.rpc kind message response)) _ :=
    .errored member worded other
  rw [← h] at hconcludes
  exact ⟨_, congrArg Traced.result (process_eq_of_concludes hconcludes), rfl, rfl⟩

/-! ## Messages in reasons -/

/-- The message of an error of the node is the whole reason of the failed result. The reason of a revert
is the pair of its message and its data, in quoted form: every message that quoting leaves as it is
stands in it, and no message with a character that is not printable does. -/
theorem reason_tells_message (node : Node) (p : CallParameters) (block : Value) (m : String) :
    (∀ kind response error text,
      node.call p.transaction block = .error (.rpc kind m response) → HasError response error →
      HasText error text → ¬ NamesMissingBlock text →
      FailsFor node p block m ∧ FailsTelling node p block m) ∧
    ∀ kind data, kind ≠ .offchainLookup →
      node.call p.transaction block = .error (.reverted kind (.text m) data) →
      FailsFor node p block (quotedPair (.text m) data) ∧
      (StandsQuoted m → FailsTelling node p block m) ∧
      (¬ IsPrintable m → ¬ FailsTelling node p block m) := by
  constructor
  · intro kind response error text hanswer member worded other
    have hfails := failsFor_of_errored hanswer member worded other
    exact ⟨hfails, hfails.failsTelling_iff.2 List.infix_rfl⟩
  · intro kind data hkind hanswer
    have hfails := failsFor_of_reverted hkind hanswer
    refine ⟨hfails, ?_, ?_⟩
    · intro hstands
      exact hfails.failsTelling_iff.2 (infix_quotedPair hstands data)
    · intro hmark htelling
      apply hmark
      intro c hc
      exact isPrintable_quotedPair _ _ c ((hfails.failsTelling_iff.1 htelling).subset hc)

/-- A node on which every call reverts. -/
def reverting (message data : Value) : Node where
  call _ _ := .error (.reverted .custom message data)
  blockNumber := .ok (.int 0)

/-- A message with an apostrophe is shown between double quotes, and one with a line feed is escaped. -/
theorem reason_tells_message_apostrophe :
    FailsTelling (reverting (.text "it's not ready") (.text "0x")) limitedCall (.int 9)
      "it's not ready" ∧
    ¬ FailsTelling (reverting (.text "not\nready") .null) limitedCall (.int 9) "not\nready" ∧
    FailsTelling (failing (.dict [("message", .text "out of gas")])) limitedCall (.int 9)
      "the call failed" := by
  have hstands : StandsQuoted "it's not ready" :=
    ⟨Text.isPrintable_of_all (by decide), by decide, .inr (by decide)⟩
  have hline : ¬ IsPrintable "not\nready" := by
    intro h
    exact absurd (h '\n' (by decide)) (by decide)
  have hother : ¬ NamesMissingBlock "out of gas" := by
    rw [← saysBlockMissing_eq_true_iff]
    decide +kernel
  have hquoted := (reason_tells_message (reverting (.text "it's not ready") (.text "0x")) limitedCall
    (.int 9) "it's not ready").2 .custom (.text "0x") (by decide) rfl
  have hescaped := (reason_tells_message (reverting (.text "not\nready") .null) limitedCall
    (.int 9) "not\nready").2 .custom .null (by decide) rfl
  have herrored := (reason_tells_message (failing (.dict [("message", .text "out of gas")]))
    limitedCall (.int 9) "the call failed").1 _ _ _ _ rfl (hasError_failing _) (.message rfl) hother
  exact ⟨hquoted.2.1 hstands, hescaped.2.2 hline, herrored.2⟩

/-- A message with both quotes is not found in its reason. -/
theorem not_failsTelling_both_quotes :
    FailsFor (reverting (.text "it's \"bad\"") .null) limitedCall (.int 10)
      "('it\\'s \"bad\"', None)" ∧
    ¬ FailsTelling (reverting (.text "it's \"bad\"") .null) limitedCall (.int 10) "it's \"bad\"" := by
  have hfails : FailsFor (reverting (.text "it's \"bad\"") .null) limitedCall (.int 10)
      (quotedPair (.text "it's \"bad\"") .null) := failsFor_of_reverted (by decide) rfl
  have hreason : quotedPair (.text "it's \"bad\"") .null = "('it\\'s \"bad\"', None)" := by
    decide +kernel
  rw [hreason] at hfails
  refine ⟨hfails, ?_⟩
  rw [hfails.failsTelling_iff]
  decide +kernel

end ValidatorReader.Node
