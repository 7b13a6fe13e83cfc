import ValidatorReader.Proofs.CommandLine.Answers

/-!
# Contracts that cannot be used

A contract text that is no address ends a run as a wrong usage, whatever contract the settings name
and whatever else is asked for, and before the node is spoken of. The empty text is the exception: it
counts as no text, so that the contract of the settings is read in its place.
-/

namespace ValidatorReader.CommandLine

open Node (one returning)

variable {env : Environment} {node : Node} {args args' rest : List String}
  {options : List (String × String)} {settings : Settings} {c : Command} {s : String}
  {e : AddressError}

theorem chooseContract_of_error (unusable : Address.ofText s = .error e) (hs : s ≠ "")
    (settings : Settings) : chooseContract (some s) settings = .error (.badContract e) := by
  simp [chooseContract, Settings.nonempty?_of_ne hs, unusable, Except.mapError]

/-- An empty contract text counts as none. -/
theorem chooseContract_empty (settings : Settings) :
    chooseContract (some "") settings = chooseContract none settings := rfl

/-- A text that is no address is a wrong use of the program, whatever else the run is given. -/
theorem run_of_bad_contract (given : Gives args options)
    (last : LastValue options "--contract" s) (unusable : Address.ofText s = .error e)
    (hs : s ≠ "") (valid : Settings.read env = .ok settings) (c : Command) (rest : List String)
    (node : Node) :
    run (args ++ c.name :: rest) env node =
      misused (configurationEvents settings) .program (.badContract e) := by
  have hopened : openSession env ⟨options, c.name :: rest⟩ =
      (configurationEvents settings, .error (.usage (.badContract e))) := by
    rw [openSession_of_settings valid, value?_of_lastValue last,
      chooseContract_of_error unusable hs]
  rw [given.run_eq, hopened]

/-- An empty text for the contract is passed over, as if the option had not been given. -/
theorem run_of_empty_contract (given : Gives args options)
    (last : LastValue options "--contract" "")
    (given' : Gives args' (options.filter (·.1 ≠ "--contract"))) (c : Command)
    (rest : List String) (env : Environment) (node : Node) :
    run (args ++ c.name :: rest) env node = run (args' ++ c.name :: rest) env node := by
  have hnone : NotGiven (options.filter (·.1 ≠ "--contract")) "--contract" := notGiven_filter _ _
  have hopened : openSession env ⟨options, c.name :: rest⟩ =
      openSession env ⟨options.filter (·.1 ≠ "--contract"), c.name :: rest⟩ := by
    apply openSession_congr
    · rw [value?_of_lastValue last, value?_of_notGiven hnone]
      rfl
    · exact (value?_filter_of_ne (by decide) _).symm
    · exact (value?_filter_of_ne (by decide) _).symm
  rw [given.run_eq, given'.run_eq, hopened]

/-- A run with a contract text that is no address ends as a wrong usage that says why and does not
use the node, unless the text is empty and the settings name a contract: with an empty text the run
is the one without the option. -/
theorem run_of_unusable_contract (given : Gives args options)
    (last : LastValue options "--contract" s) (unusable : Address.ofText s = .error e)
    (valid : Settings.read env = .ok settings) (c : Command) (rest : List String) (node : Node) :
    (s ≠ "" ∨ settings.contract = none →
      (run (args ++ c.name :: rest) env node).exitCode = 2 ∧
      (run (args ++ c.name :: rest) env node).nodeUses = [] ∧
      (run (args ++ c.name :: rest) env node).stdout = "") ∧
    (s ≠ "" → (run (args ++ c.name :: rest) env node).stderr =
      plainMessage ((UsageError.badContract e).report .program)) ∧
    (s = "" → ∀ args', Gives args' (options.filter (·.1 ≠ "--contract")) →
      run (args ++ c.name :: rest) env node = run (args' ++ c.name :: rest) env node) := by
  have hmisused {d : UsageError} (h : run (args ++ c.name :: rest) env node =
      misused (configurationEvents settings) .program d) :
      (run (args ++ c.name :: rest) env node).exitCode = 2 ∧
      (run (args ++ c.name :: rest) env node).nodeUses = [] ∧
      (run (args ++ c.name :: rest) env node).stdout = "" := by
    rw [h]
    exact ⟨rfl, (quiet_configurationEvents settings).filter_usesNode, rfl⟩
  refine ⟨?_, ?_, ?_⟩
  · intro hcase
    by_cases hs : s = ""
    · subst hs
      have hnone : settings.contract = none := hcase.resolve_left (not_not.2 rfl)
      have hopened : openSession env ⟨options, c.name :: rest⟩ =
          (configurationEvents settings, .error (.usage .noContract)) := by
        rw [openSession_of_settings valid, value?_of_lastValue last, chooseContract_empty]
        simp [chooseContract, hnone]
      apply hmisused (d := .noContract)
      rw [given.run_eq, hopened]
    · exact hmisused (run_of_bad_contract given last unusable hs valid c rest node)
  · intro hs
    rw [run_of_bad_contract given last unusable hs valid]
    rfl
  · intro hs args' given'
    subst hs
    exact run_of_empty_contract given last given' c rest env node

/-- Bad digits, with a usable contract in the environment and a block that is none. -/
theorem run_of_bad_digits :
    Address.ofText "0xzz" = .error (.badDigits "0xzz") ∧
    (run ["--block", "x", "--contract=0xzz", "validators"] { address := some "0x1" }
      (returning [])).exitCode = 2 ∧
    (run ["--block", "x", "--contract=0xzz", "validators"] { address := some "0x1" }
      (returning [])).nodeUses = [] := by
  have unusable : Address.ofText "0xzz" = .error (.badDigits "0xzz") := by cbv
  have given : Gives ["--block", "x", "--contract=0xzz"]
      [("--block", "x"), ("--contract", "0xzz")] :=
    .apart (by decide) (@Gives.joined "--contract" "0xzz" [] [] (by decide) .nil)
  have last : LastValue [("--block", "x"), ("--contract", "0xzz")] "--contract" "0xzz" :=
    lastValue_concat [("--block", "x")] _ _
  obtain ⟨settings, valid, _⟩ := Settings.exists_read_address (s := "0x1") (a := one) (by cbv)
  obtain ⟨hcode, huses, _⟩ := (run_of_unusable_contract given last unusable valid .validators []
    (returning [])).1 (.inl (by decide))
  exact ⟨unusable, hcode, huses⟩

/-- With an empty contract text the contract of the environment is read. -/
theorem run_empty_contract :
    Address.ofText "" = .error (.noDigits "''") ∧
    (run ["--contract", "", "--block", "7", "epoch-counter", "--json"] { address := some "0x1" }
      (returning (Bytes.ofNat 32 5))).exitCode = 0 ∧
    Answers (run ["--contract", "", "--block", "7", "epoch-counter", "--json"]
      { address := some "0x1" } (returning (Bytes.ofNat 32 5)))
        (.dict [("block", .int 7), ("epoch_counter", .int 5)]) := by
  have accepted : Address.ofText "0x1" = .ok one := by cbv
  have given : Gives ["--contract", "", "--block", "7"] [("--contract", ""), ("--block", "7")] :=
    .apart (by decide) (.apart (by decide) .nil)
  have last : LastValue [("--contract", ""), ("--block", "7")] "--contract" "" :=
    ⟨[], [("--block", "7")], rfl, by decide⟩
  have given' : Gives ["--block", "7"]
      ([("--contract", ""), ("--block", "7")].filter (·.1 ≠ "--contract")) :=
    @Gives.apart "--block" "7" [] [] (by decide) .nil
  have contract : NamesContract [("--block", "7")] { address := some "0x1" } one :=
    .environment (by decide) rfl accepted
  have block : NamesBlock [("--block", "7")] (returning (Bytes.ofNat 32 5)) 7 :=
    .literal (lastValue_concat [] _ _) (by decide +kernel)
  obtain ⟨settings, valid, _⟩ := Settings.exists_read_address accepted
  obtain ⟨hbound, hdecode⟩ := Abi.decode_word (n := 5) (by decide)
  have hread : readAt (returning (Bytes.ofNat 32 5)) one .epochCounter 7 = _ :=
    Node.read_of_output rfl rfl rfl rfl hdecode rfl
  have hsmall : 7 < 10 ^ Number.maxDigits :=
    lt_of_lt_of_le (by decide) (Nat.pow_le_pow_right (by decide) (by decide : 1 ≤ Number.maxDigits))
  have hanswers := run_of_readAt (c := .epochCounter) given' valid contract block hsmall
    (congrArg Traced.result hread) (plain_epochCounter 7 5)
  have hsame := run_of_empty_contract given last given' .epochCounter ["--json"]
    { address := some "0x1" } (returning (Bytes.ofNat 32 5))
  simp only [List.cons_append, List.nil_append] at hsame hanswers
  rw [← hsame] at hanswers
  exact ⟨by cbv, hanswers.exitCode, hanswers⟩

end ValidatorReader.CommandLine
