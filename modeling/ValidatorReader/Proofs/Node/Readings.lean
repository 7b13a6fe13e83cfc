import ValidatorReader.Proofs.Abi.Output
import ValidatorReader.Proofs.Contract.Dispatch
import ValidatorReader.Proofs.Node.Outcomes

/-!
# Readings over a node

A controller over a node reads what the node has: the list of addresses whose encoding the node
returns, or the number that it returns as a word, with whatever bytes behind it. For this the node is
called once, at the block of the reading, with the contract and the selector of the function and
nothing else.
-/

namespace ValidatorReader.Node

open Controller (plainRequest dispatchRecord readingEntries)

/-- The transaction object of a call without arguments: the contract with its checksum and the
selector of the function. -/
def plainTransaction (f : Signature) (a : Address) : Entries :=
  [("to", .text a.toChecksum), ("data", .text ("0x" ++ Bytes.toHex f.selector))]

theorem transaction_plainRequest (f : Signature) (a : Address) (block : Value) :
    (plainRequest f a block).parameters.transaction = plainTransaction f a := rfl

theorem plainTransaction_getValidators (a : Address) : plainTransaction getValidators a =
    [("to", .text a.toChecksum), ("data", .text "0xb7ab4db5")] := by
  have hdata : "0x" ++ Bytes.toHex getValidators.selector = "0xb7ab4db5" := by decide +kernel
  rw [plainTransaction, hdata]

theorem plainTransaction_getEpochCounter (a : Address) : plainTransaction getEpochCounter a =
    [("to", .text a.toChecksum), ("data", .text "0x52d4fe3c")] := by
  have hdata : "0x" ++ Bytes.toHex getEpochCounter.selector = "0x52d4fe3c" := by decide +kernel
  rw [plainTransaction, hdata]

variable {node : Node} {block contract : Value} {f : Signature} {a : Address}

/-- What the node returns is read as the first of its values, and the node is called once. -/
theorem read_of_output {rule : ReadingRule} {output : List UInt8} {first : Abi.TypedValue}
    {others : List Abi.TypedValue} (coerced : Address.coerce contract = .ok a)
    (hf : f.argumentTypes = []) (known : ReadingRule.forName? f.name = some rule)
    (hcall : node.call (plainTransaction f a) block = .ok output)
    (decoded : Abi.decode f.returnTypes output = .ok (first :: others))
    (typed : first.type = rule.expected) :
    node.controller.read block f contract =
      ⟨[.logged (dispatchRecord f a block), .simulated (plainRequest f a block),
        .nodeCalled (plainTransaction f a) block], .ok (Reading.content first)⟩ := by
  have hsimulator : node.controller.simulator (plainRequest f a block) =
      ⟨[.nodeCalled (plainTransaction f a) block], .ok (some (.successful output))⟩ :=
    process_of_ok hcall
  have hreading : Reading.ofResult (some (.successful output)) f node.controller.decoder
      (Reading.detailsValue (some (readingEntries a block))) = pure (Reading.content first) :=
    Reading.ofResult_eq_of_concludes (.accepted known rfl rfl decoded typed)
  have hanswer : (node.controller.simulator (plainRequest f a block)).result =
      .ok (some (.successful output)) := by rw [hsimulator]
  rw [Controller.read_of_answer coerced hf hanswer, hreading, hsimulator]
  rfl

/-- A node that returns the same output for every call. -/
def returning (output : List UInt8) : Node where
  call _ _ := .ok output
  blockNumber := .ok (.int 0)

def one : Address :=
  ⟨List.replicate 19 0 ++ [1], rfl⟩

end ValidatorReader.Node
