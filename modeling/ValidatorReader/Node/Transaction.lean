import ValidatorReader.Simulation
import ValidatorReader.Value.Entries

/-!
# Transaction objects

The form in which a node is given the parameters of a call. Parameters that are not set have no
entry.
-/

namespace ValidatorReader

/-- The entry of a parameter, if it is set. -/
def optionalEntry (name : String) (value : Option Value) : Entries :=
  match value with
  | some v => [(name, v)]
  | none => []

/-- The transaction object of a call. -/
def CallParameters.transaction (p : CallParameters) : Entries :=
  [("to", .text p.recipient.toChecksum), ("data", .text ("0x" ++ Bytes.toHex p.payload))] ++
    optionalEntry "from" (p.sender.map fun a => .text a.toChecksum) ++
    optionalEntry "gas" (if 0 ≤ p.gasLimit then some (.int p.gasLimit) else none) ++
    optionalEntry "gasPrice" (p.gasPrice.map .int) ++
    optionalEntry "value" (p.value.map .int)

end ValidatorReader
