import ValidatorReader.Value.Basic

/-!
# Node errors

What can go wrong while a node is asked something: the contract reverts, the node answers with an
error, or the question never arrives.
-/

namespace ValidatorReader

inductive RevertKind
  | logic
  | custom
  | panic
  | offchainLookup
deriving DecidableEq, Repr

/-- The errors that a node answers with. -/
inductive RpcErrorKind
  | general
  | transactionNotFound
  | methodUnavailable
  | requestTimedOut
  | indexingInProgress
deriving DecidableEq, Repr

/-- The failures of the connection to a node. -/
inductive TransportErrorKind
  | connection
  | timeout
  | http
deriving DecidableEq, Repr

/-- Failures of no concern to the reader, which leave it as they came. -/
inductive ForeignErrorKind
  | connection
  | timeout
  | value
  | runtime
  | badFunctionOutput
  | timeExhausted
  | invalidRequest
deriving DecidableEq, Repr

/-- What goes wrong while a node is asked something. -/
inductive NodeError
  | reverted (kind : RevertKind) (message data : Value)
  | blockNotFound (message : String) (response : Value)
  | rpc (kind : RpcErrorKind) (message : String) (response : Value)
  | transport (kind : TransportErrorKind) (message : String)
  | foreign (kind : ForeignErrorKind) (message : String)

/-- The text of a node error; a revert shows its message and data as a pair. -/
def NodeError.message : NodeError → String
  | reverted .offchainLookup _ data => (Value.tuple [.null, data]).quoted
  | reverted _ message data => (Value.tuple [message, data]).quoted
  | blockNotFound message _ => message
  | rpc _ message _ => message
  | transport _ message => message
  | foreign _ message => message

end ValidatorReader
