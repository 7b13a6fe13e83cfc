import ValidatorReader.Contract.Controller
import ValidatorReader.Node.Transaction
import ValidatorReader.Text.Case

/-!
# Simulation on a node

A node evaluates calls against its blocks. Its answers and errors are classified: output is a
successful result, a revert or another error of the call is a failed result, a block that the node
does not have is no result, and what has nothing to do with the call stays a failure.
-/

namespace ValidatorReader

/-- What a node answers when it is asked to evaluate a call or for its newest block. -/
structure Node where
  call : Entries → Value → Except NodeError (List UInt8)
  blockNumber : Except NodeError Value

namespace Node

def loggerName : String := "validator_contract.web3_simulator"

/-- The record of a block that the node does not have. -/
def missingBlockRecord (block : Value) : LogRecord where
  logger := loggerName
  severity := .warning
  message := s!"Block {block.display} not found, cannot simulate call"
  extra := [("event", .text "validator_contract.block_not_found"), ("block_number", block)]

/-- The record of a call that the contract rejected. -/
def revertRecord (contract : Address) (block : Value) (reason : String) : LogRecord where
  logger := loggerName
  severity := .info
  message := s!"Simulated call to {contract.toHex} reverted: {reason}"
  extra := [("event", .text "validator_contract.call_reverted"), ("block_number", block)]

/-- The record of a call that failed on the node. -/
def errorRecord (contract : Address) (block : Value) (reason : String) : LogRecord where
  logger := loggerName
  severity := .info
  message := s!"Simulated call to {contract.toHex} failed on the node: {reason}"
  extra := [("event", .text "validator_contract.call_errored"), ("block_number", block)]

/-- What nodes say of a block that they do not have. -/
def missingBlockPhrases : List String :=
  ["header not found", "unknown block", "block not found"]

/-- Whether some characters stand together in a text. -/
def occursIn (part : List Char) : List Char → Bool
  | [] => part.isEmpty
  | c :: rest => part.isPrefixOf (c :: rest) || occursIn part rest

/-- Whether a text says that a block is missing, in letters of any case. -/
def saysBlockMissing (text : String) : Bool :=
  let lowered := (Text.lower text).toList
  missingBlockPhrases.any fun phrase => occursIn phrase.toList lowered

/-- The error object of a node's response, if it has one. -/
def responseError? : Value → Option Value
  | .dict entries => Entries.get? entries "error"
  | _ => none

/-- The text of an error object: its message, or the whole if it is no dictionary. -/
def errorText : Value → Except ShapeError String
  | .dict entries =>
    match (Entries.get? entries "message").getD (.text "") with
    | .text s => .ok s
    | v => .error (.noMember v.kind "lower")
  | v => .ok v.display

/-- No result, because the node does not have the block. -/
def missingBlock (block : Value) : Traced (Option SimulationResult) := do
  Traced.emit (.logged (missingBlockRecord block))
  return none

/-- What a node error means for a call. -/
def classify (contract : Address) (block : Value) (e : NodeError) :
    Traced (Option SimulationResult) :=
  match e with
  | .reverted _ _ _ => do
    Traced.emit (.logged (revertRecord contract block e.message))
    return some (.failed (some e.message) [])
  | .blockNotFound _ _ => missingBlock block
  | .rpc _ _ response =>
    match responseError? response with
    | none => .fail (.node e)
    | some error => do
      let text ← Traced.ofExcept ((errorText error).mapError .shape)
      if saysBlockMissing text then missingBlock block
      else
        Traced.emit (.logged (errorRecord contract block e.message))
        return some (.failed (some e.message) [])
  | .transport _ _ => .fail (.node e)
  | .foreign _ _ => .fail (.node e)

/-- Evaluates a call on the node, which is asked exactly once. -/
def process (node : Node) (p : CallParameters) (block : Value) :
    Traced (Option SimulationResult) := do
  Traced.emit (.nodeCalled p.transaction block)
  match node.call p.transaction block with
  | .ok output => return some (.successful output)
  | .error e => classify p.recipient block e

/-- The simulator that asks a node. Nodes neither trace nor look at the policy. -/
def simulator (node : Node) : Simulator :=
  fun request => node.process request.parameters request.block

def controller (node : Node) : Controller where
  simulator := node.simulator

def latestBlock (node : Node) : Traced Int := do
  Traced.emit .blockNumberRead
  let number ← Traced.ofExcept (node.blockNumber.mapError .node)
  Traced.ofExcept number.toInteger

end Node

end ValidatorReader
