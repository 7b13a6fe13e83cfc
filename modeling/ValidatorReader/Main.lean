import ValidatorReader.CommandLine.Run

/-!
# Main program

The arguments and the environment come from the system. What the node answers comes from the standard
input, a line for the number of its newest block if that is asked for, then a line for the output of
the call in hexadecimal. A run that asks the node nothing reads no line.
-/

namespace ValidatorReader.CommandLine

def readEnvironment : IO Environment := do
  return {
    address := ← IO.getEnv "VALIDATOR_CONTRACT_ADDRESS"
    rpcUrl := ← IO.getEnv "VALIDATOR_CONTRACT_RPC_URL"
    rpcTimeout := ← IO.getEnv "VALIDATOR_CONTRACT_RPC_TIMEOUT"
    logLevel := ← IO.getEnv "VALIDATOR_CONTRACT_LOG_LEVEL"
    logFile := ← IO.getEnv "VALIDATOR_CONTRACT_LOG_FILE" }

def noAnswer : NodeError := .transport .connection "the node does not answer"

/-- The bytes that a line gives in hexadecimal, with or without a mark in front. -/
def bytesOfLine? (line : String) : Option (List UInt8) :=
  match (Text.trim line).toList with
  | '0' :: 'x' :: digits => Bytes.ofHexChars? digits
  | digits => Bytes.ofHexChars? digits

/-- The node that answers with the given lines, as far as they are there. -/
def answeringNode (blockLine outputLine : Option String) : Node where
  call := fun _ _ =>
    match outputLine.bind bytesOfLine? with
    | some output => .ok output
    | none => .error noAnswer
  blockNumber :=
    match blockLine with
    | some line => .ok (.text (Text.trim line))
    | none => .error noAnswer

def Report.asksForBlock (r : Report) : Bool :=
  r.events.any fun
    | .blockNumberRead => true
    | _ => false

def Report.asksForCall (r : Report) : Bool :=
  r.events.any fun
    | .nodeCalled _ _ => true
    | _ => false

def readAnswer (input : IO.FS.Stream) : IO (Option String) := do
  let line ← input.getLine
  return if line.isEmpty then none else some line

/-- Shows what a run leaves behind and gives its exit code. -/
def Report.print (r : Report) : IO UInt32 := do
  IO.print r.stdout
  IO.eprint r.stderr
  if let some e := r.escaped then IO.eprintln e.message
  return r.exitCode.toUInt32

end ValidatorReader.CommandLine

open ValidatorReader ValidatorReader.CommandLine in
def main (args : List String) : IO UInt32 := do
  let env ← readEnvironment
  let input ← IO.getStdin
  let first := run args env (answeringNode none none)
  let blockLine ← if first.asksForBlock then readAnswer input else pure none
  let second := run args env (answeringNode blockLine none)
  let outputLine ← if second.asksForCall then readAnswer input else pure none
  (run args env (answeringNode blockLine outputLine)).print
