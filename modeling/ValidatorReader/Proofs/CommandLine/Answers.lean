import ValidatorReader.Proofs.CommandLine.NodeUse
import ValidatorReader.Proofs.Json.Lines
import ValidatorReader.Proofs.Json.RoundTrip
import ValidatorReader.Proofs.Node.Readings
import ValidatorReader.Proofs.Settings

/-!
# Answers as JSON

A run that asks for JSON prints one line, which is read back as the block and what the node returned
at it: the validators in order, or the epoch counter. The contract may be named by the option or by
the environment, and the block by its number in any notation or as the newest one.
-/

namespace ValidatorReader

variable {env : Environment} {node : Node} {args rest : List String}
  {options : List (String × String)} {settings : Settings} {c : Command} {a : Address} {b : ℕ}

namespace CommandLine

open Node (plainTransaction one returning)

/-! ## Contracts and blocks -/

/-- How a run is told its contract: by the option, or else by the environment. -/
inductive NamesContract (options : List (String × String)) (env : Environment) (a : Address) : Prop
  | option {s : String} (last : LastValue options "--contract" s)
    (accepted : Address.ofText s = .ok a)
  | environment {s : String} (absent : NotGiven options "--contract") (set : env.address = some s)
    (accepted : Address.ofText s = .ok a)

/-- How a run is told its block: by the number in decimal or in another notation, or as the newest
block, which is also meant where no block is named. -/
inductive NamesBlock (options : List (String × String)) (node : Node) (b : ℕ) : Prop
  | decimal (last : LastValue options "--block" (toString b))
  | literal {s : String} (last : LastValue options "--block" s)
    (number : BlockChoice.ofText s = .ok (.number b))
  | newest {number : Value}
    (latest : LastValue options "--block" "latest" ∨ NotGiven options "--block")
    (answered : node.blockNumber = .ok number) (integer : number.toInteger = .ok b)

theorem chooseContract_of_ofText {s : String} (h : Address.ofText s = .ok a)
    (settings : Settings) : chooseContract (some s) settings = .ok a := by
  have hne : s ≠ "" := Address.ne_empty_of_ofText h
  simp [chooseContract, Settings.nonempty?_of_ne hne, h, Except.mapError]

/-- A contract that is named, on the command line or else in the environment, is the one that is
read. -/
theorem NamesContract.chooseContract_eq (h : NamesContract options env a)
    (valid : Settings.read env = .ok settings) (rest : List String) :
    chooseContract ((Parsed.mk options rest).value? "--contract") settings = .ok a := by
  cases h with
  | option last accepted =>
    rw [value?_of_lastValue last]
    exact chooseContract_of_ofText accepted settings
  | environment absent set accepted =>
    rw [value?_of_notGiven absent]
    simp [chooseContract, Settings.contract_of_read valid set accepted]

/-- Whichever way the block is named, the command reads at its number. -/
theorem NamesBlock.exists_choice (h : NamesBlock options node b) (hb : b < 10 ^ Number.maxDigits)
    (rest : List String) (a : Address) (c : Command) :
    ∃ choice asked, BlockChoice.ofText (blockText ⟨options, rest⟩) = .ok choice ∧
      readContract node ⟨a, choice⟩ c =
        ⟨asked, (readAt node a c b).result.map fun reading ↦ ((b : ℤ), reading)⟩ := by
  cases h with
  | decimal last =>
    refine ⟨.number b, _, ?_, readContract_number node a b c⟩
    rw [blockText, value?_of_lastValue last, Option.getD_some]
    exact BlockChoice.ofText_toString hb
  | literal last number =>
    refine ⟨.number b, _, ?_, readContract_number node a b c⟩
    rw [blockText, value?_of_lastValue last, Option.getD_some]
    exact number
  | newest latest answered integer =>
    have hnewest : newestBlock node = .ok (b : ℤ) := by
      rw [newestBlock, answered]
      exact integer
    refine ⟨.latest, _, ?_, readContract_latest hnewest a c⟩
    rcases latest with last | absent
    · rw [blockText, value?_of_lastValue last]
      rfl
    · rw [blockText, value?_of_notGiven absent]
      rfl

/-! ## Answers -/

/-- Whether a run ends well with a single line of JSON for a value. -/
structure Answers (r : Report) (v : Value) : Prop where
  exitCode : r.exitCode = 0
  escaped : r.escaped = none
  stderr : r.stderr = ""
  stdout : ∃ line, r.stdout = line ++ "\n" ∧ '\n' ∉ line.toList ∧ Json.read? line = some v

/-- What a reading at a block is told as. -/
def answer (b : ℕ) : Reading → Value
  | .validators as =>
    .dict [("block", .int b), ("validators", .list (as.map fun a ↦ .text a.toHex))]
  | .epochCounter counter => .dict [("block", .int b), ("epoch_counter", counter)]

theorem jsonOutput_eq (b : ℕ) (reading : Reading) :
    jsonOutput b reading = (answer b reading).toJson ++ "\n" := by
  cases reading <;> rfl

theorem lineFeed_notMem_toJson (v : Value) : '\n' ∉ v.toJson.toList := by
  intro h
  exact absurd (Json.isPlainLine_toJson v '\n' h) (by decide)

/-- An answer about validators is plain: it has nothing that does not read back. -/
theorem plain_validators (b : ℕ) (as : List Address) : Json.Plain (answer b (.validators as)) := by
  apply Json.Plain.dict
  intro m hm
  simp only [List.mem_cons, List.not_mem_nil, or_false] at hm
  rcases hm with rfl | rfl
  · exact .int _
  · apply Json.Plain.list
    intro item hitem
    obtain ⟨a, _, rfl⟩ := List.mem_map.1 hitem
    exact .text _

theorem plain_epochCounter (b : ℕ) (n : ℤ) : Json.Plain (answer b (.epochCounter (.int n))) := by
  apply Json.Plain.dict
  intro m hm
  simp only [List.mem_cons, List.not_mem_nil, or_false] at hm
  rcases hm with rfl | rfl
  · exact .int _
  · exact .int _

theorem parse_json : parse commandOptions true ["--json"] = .ok ⟨[("--json", "")], []⟩ := by
  decide +kernel

/-- With usable settings, a contract and a block, a command shows what it reads there. -/
theorem run_of_reading {rest : List String} {flags : Parsed} {reading : Reading} {stdout : String}
    (given : Gives args options) (valid : Settings.read env = .ok settings)
    (contract : NamesContract options env a) (block : NamesBlock options node b)
    (hb : b < 10 ^ Number.maxDigits) (parsed : parse commandOptions true rest = .ok flags)
    (hhelp : flags.has helpOption.name = false) (hwords : flags.rest = [])
    (hread : (readAt node a c b).result = .ok reading)
    (shown : output (flags.has "--json") b reading = .ok stdout) :
    ∃ events, run (args ++ c.name :: rest) env node = { events, stdout } := by
  obtain ⟨choice, asked, hchoice, hasked⟩ := block.exists_choice hb (c.name :: rest) a c
  have hopened := openSession_of_contract valid (contract.chooseContract_eq valid _) hchoice
  rw [hread] at hasked
  have hrun := runCommand_of_reading
    (connectionEvents ⟨options, c.name :: rest⟩ settings ++ [Controller.created])
    parsed hhelp hwords hasked shown
  rw [given.run_eq, hopened]
  simp only [hrun]
  exact ⟨_, rfl⟩

/-- A reading that succeeds is told in full. -/
theorem run_of_readAt {reading : Reading} (given : Gives args options)
    (valid : Settings.read env = .ok settings) (contract : NamesContract options env a)
    (block : NamesBlock options node b) (hb : b < 10 ^ Number.maxDigits)
    (hread : (readAt node a c b).result = .ok reading) (plain : Json.Plain (answer b reading)) :
    Answers (run (args ++ [c.name, "--json"]) env node) (answer b reading) := by
  obtain ⟨events, hrun⟩ :=
    run_of_reading given valid contract block hb parse_json (by decide) rfl hread rfl
  rw [hrun]
  refine ⟨rfl, rfl, rfl, (answer b reading).toJson, ?_, lineFeed_notMem_toJson _,
    Json.read?_toJson plain⟩
  exact jsonOutput_eq b reading

/-- With usable settings, a contract that is an address and a block number that is not too long, a
run that asks for JSON tells exactly the block and the addresses or the number that the node returns
in encoded form. -/
theorem run_answers (given : Gives args options) (valid : Settings.read env = .ok settings)
    (contract : NamesContract options env a) (block : NamesBlock options node b)
    (hb : b < 10 ^ Number.maxDigits) :
    (∀ as items encoding, List.Forall₂ Abi.IsItemAddress items as →
      Abi.encodeValues ([.addressArray].map .abiType) (.list [.list items]) = .ok encoding →
      encoding.length < 2 ^ 256 →
      node.call (plainTransaction getValidators a) (.int b) = .ok encoding →
      Answers (run (args ++ ["validators", "--json"]) env node)
        (.dict [("block", .int b), ("validators", .list (as.map fun a ↦ .text a.toHex))])) ∧
    ∀ n : ℕ, n < 2 ^ 256 →
      node.call (plainTransaction getEpochCounter a) (.int b) = .ok (Bytes.ofNat 32 n) →
      Answers (run (args ++ ["epoch-counter", "--json"]) env node)
        (.dict [("block", .int b), ("epoch_counter", .int n)]) := by
  constructor
  · intro as items encoding hspell hencode hsize hcall
    have hdecode := Abi.decode_encoded_addresses hspell hencode hsize
    have hread : readAt node a .validators b = _ :=
      Node.read_of_output rfl rfl rfl hcall hdecode rfl
    exact run_of_readAt (c := .validators) given valid contract block hb
      (congrArg Traced.result hread) (plain_validators b as)
  · intro n hn hcall
    obtain ⟨hbound, hdecode⟩ := Abi.decode_word hn
    have hread : readAt node a .epochCounter b = _ :=
      Node.read_of_output rfl rfl rfl hcall hdecode rfl
    exact run_of_readAt (c := .epochCounter) given valid contract block hb
      (congrArg Traced.result hread) (plain_epochCounter b n)

/-- The same address twice, and a number, at a block that is named in decimal. -/
theorem run_answers_at_twelve :
    ∃ encoding, Abi.encodeValues ([.addressArray].map .abiType)
        (.list [.list [.bytes one.bytes, .bytes one.bytes]]) = .ok encoding ∧
      Answers (run ["--block=12", "validators", "--json"] { address := some "0x1" }
        (returning encoding)) (.dict [("block", .int 12),
          ("validators", .list [.text one.toHex, .text one.toHex])]) ∧
      Answers (run ["--block=12", "epoch-counter", "--json"] { address := some "0x1" }
        (returning (Bytes.ofNat 32 9)))
          (.dict [("block", .int 12), ("epoch_counter", .int 9)]) := by
  have accepted : Address.ofText "0x1" = .ok one := by cbv
  have hnumeral : toString 12 = "12" := by decide +kernel
  have given : Gives ["--block=12"] [("--block", toString 12)] := by
    rw [hnumeral]
    exact @Gives.joined "--block" "12" [] [] (by decide) .nil
  have last : LastValue [("--block", toString 12)] "--block" (toString 12) :=
    lastValue_concat [] _ _
  have block (node : Node) : NamesBlock [("--block", toString 12)] node 12 := .decimal last
  have contract : NamesContract [("--block", toString 12)] { address := some "0x1" } one :=
    .environment (by unfold NotGiven; simp) rfl accepted
  obtain ⟨settings, valid, _⟩ := Settings.exists_read_address accepted
  have hspell : List.Forall₂ Abi.IsItemAddress [.bytes one.bytes, .bytes one.bytes] [one, one] :=
    .cons rfl (.cons rfl .nil)
  obtain ⟨encoding, hencode, hsize⟩ : ∃ encoding, Abi.encodeValues ([.addressArray].map .abiType)
      (.list [.list [.bytes one.bytes, .bytes one.bytes]]) = .ok encoding ∧
      encoding.length < 2 ^ 256 := ⟨_, rfl, by decide +kernel⟩
  have hsmall : 12 < 10 ^ Number.maxDigits :=
    lt_of_lt_of_le (by decide) (Nat.pow_le_pow_right (by decide) (by decide : 2 ≤ Number.maxDigits))
  have hlists := (run_answers given valid contract (block (returning encoding)) hsmall).1
    [one, one] _ encoding hspell hencode hsize rfl
  have hnumbers := (run_answers given valid contract (block (returning (Bytes.ofNat 32 9)))
    hsmall).2 9 (by decide) rfl
  exact ⟨encoding, hencode, hlists, hnumbers⟩

end CommandLine

end ValidatorReader
