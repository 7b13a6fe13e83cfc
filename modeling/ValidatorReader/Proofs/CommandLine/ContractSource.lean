import ValidatorReader.Proofs.CommandLine.Answers

/-!
# The contract in an option or in the environment

A contract may be named by the option or by its variable in the environment, where blanks may stand
around it. The run is the same: the same events in the same order, and the same end. With the option,
whatever usable text the variable holds makes no difference. None of this needs that the rest of the
environment is usable, since a variable that is not is reported before a contract is chosen.
-/

namespace ValidatorReader

variable {s padded : String} {a : Address} {text : Option String}

/-! ## The variable -/

/-- Whether a text is another one with nothing but blanks around it. -/
def Text.Pads (padded s : String) : Prop :=
  ∃ before after : List Char, padded.toList = before ++ s.toList ++ after ∧
    (∀ c ∈ before, isBlank c = true) ∧ ∀ c ∈ after, isBlank c = true

theorem Text.Pads.trim_eq (h : Pads padded s) : trim padded = trim s := by
  obtain ⟨before, after, hpadded, hbefore, hafter⟩ := h
  rw [trim, hpadded, trimBy_padded hbefore hafter, trim]

/-- The texts of the variable that give a contract or none: it is absent, or blank, or it is the text
of an address with blanks around it. -/
inductive UsableContract : Option String → Option Address → Prop
  | absent : UsableContract none none
  | blank {padded : String} (pads : Text.Pads padded "") : UsableContract (some padded) none
  | named {s padded : String} {a : Address} (accepted : Address.ofText s = .ok a)
    (pads : Text.Pads padded s) : UsableContract (some padded) (some a)

namespace Settings

variable {contract : Option Address}

/-- A usable text from the environment names its contract, blanks around it apart. -/
theorem readContract_of_usable (h : UsableContract text contract) :
    readContract text = .ok contract := by
  cases h with
  | absent => rfl
  | @blank padded pads =>
    have htrim : Text.trim padded = "" := pads.trim_eq
    simp [readContract, htrim]
  | @named s padded a accepted pads =>
    have htrim : Text.trim padded = s := pads.trim_eq.trans (Address.trim_of_ofText accepted)
    have hne : ¬ s.isEmpty = true := by
      rw [String.isEmpty_iff]
      exact Address.ne_empty_of_ofText accepted
    simp [readContract, htrim, hne, accepted]

/-- A usable contract decides on nothing but the contract of the settings. -/
theorem read_of_usable (h : UsableContract text contract) (env : Environment) :
    read { env with address := text } =
      (read { env with address := none }).map fun settings ↦ { settings with contract } := by
  simp only [read, readContract_of_usable h, readContract_of_usable .absent]
  cases readTimeout env.rpcTimeout with
  | error e => rfl
  | ok timeout =>
    cases readLevel env.logLevel with
    | error e => rfl
    | ok level => simp only [bind, Except.bind, pure, Except.pure, Except.map]

end Settings

namespace CommandLine

open Node (one returning)

variable {args args' rest : List String} {options : List (String × String)} {given : Parsed}
  {contract : Option Address} {c : Command}

/-! ## Sessions -/

/-- However a contract is chosen, nothing else of the session depends on the variable. -/
theorem openSession_of_usable (usable : UsableContract text contract)
    (chosen : ∀ settings : Settings,
      chooseContract (given.value? "--contract") { settings with contract } = .ok a)
    (env : Environment) :
    openSession { env with address := text } given =
      match Settings.read { env with address := none } with
      | .error e => ([], .error (.failure (.settings e)))
      | .ok settings =>
        match BlockChoice.ofText (blockText given) with
        | .error e => (connectionEvents given settings, .error (.usage (.badBlock e)))
        | .ok block => (connectionEvents given settings ++ [Controller.created], .ok ⟨a, block⟩) := by
  have hread := Settings.read_of_usable usable env
  cases hplain : Settings.read { env with address := none } with
  | error e =>
    rw [hplain] at hread
    exact openSession_of_unusable hread
  | ok settings =>
    rw [hplain] at hread
    rw [openSession_of_settings hread, chosen settings]
    rfl

theorem chooseContract_of_lastValue (last : LastValue options "--contract" s)
    (accepted : Address.ofText s = .ok a) (rest : List String) (settings : Settings) :
    chooseContract ((Parsed.mk options rest).value? "--contract") settings = .ok a := by
  rw [value?_of_lastValue last]
  exact chooseContract_of_ofText accepted settings

/-- With the option, the variable may hold any usable text. -/
theorem openSession_of_option (last : LastValue options "--contract" s)
    (accepted : Address.ofText s = .ok a) (usable : UsableContract text contract)
    (rest : List String) (env : Environment) :
    openSession { env with address := text } ⟨options, rest⟩ =
      openSession { env with address := none } ⟨options, rest⟩ := by
  have chosen := chooseContract_of_lastValue last accepted rest
  rw [openSession_of_usable usable fun _ ↦ chosen _, openSession_of_usable .absent fun _ ↦ chosen _]

/-- Without the option, the variable serves as well. -/
theorem openSession_of_variable (last : LastValue options "--contract" s)
    (accepted : Address.ofText s = .ok a) (pads : Text.Pads padded s) (rest : List String)
    (env : Environment) :
    openSession { env with address := some padded } ⟨options.filter (·.1 ≠ "--contract"), rest⟩ =
      openSession { env with address := none } ⟨options, rest⟩ := by
  have named : UsableContract (some padded) (some a) := .named accepted pads
  have fromOption := chooseContract_of_lastValue last accepted rest
  have fromVariable (settings : Settings) : chooseContract
      ((Parsed.mk (options.filter (·.1 ≠ "--contract")) rest).value? "--contract")
      { settings with contract := some a } = .ok a := by
    rw [value?_of_notGiven (notGiven_filter options "--contract")]
    rfl
  rw [openSession_of_usable named fromVariable, openSession_of_usable .absent fun _ ↦ fromOption _]
  simp only [connectionEvents, endpoint, blockText]
  rw [value?_filter_of_ne (by decide : "--rpc-url" ≠ "--contract"),
    value?_filter_of_ne (by decide : "--block" ≠ "--contract")]

/-! ## Runs -/

/-- A run whose option names a contract is the run without the option and with the text of the contract
in the environment, blanks around it or not: the events, the exit code, what is printed and what
escapes are all the same. And it is the same run whatever usable text the environment holds besides. -/
theorem run_contract_source (given : Gives args options) (last : LastValue options "--contract" s)
    (accepted : Address.ofText s = .ok a)
    (given' : Gives args' (options.filter (·.1 ≠ "--contract"))) (c : Command) (rest : List String)
    (env : Environment) (node : Node) :
    (∀ padded, Text.Pads padded s →
      run (args' ++ c.name :: rest) { env with address := some padded } node =
        run (args ++ c.name :: rest) { env with address := none } node) ∧
    ∀ text contract, UsableContract text contract →
      run (args ++ c.name :: rest) { env with address := text } node =
        run (args ++ c.name :: rest) { env with address := none } node := by
  constructor
  · intro padded pads
    rw [given'.run_eq, given.run_eq, openSession_of_variable last accepted pads]
  · intro text contract usable
    rw [given.run_eq, given.run_eq, openSession_of_option last accepted usable]

/-- The contract in front of another option, in the environment with blanks around it, and in both. -/
theorem run_contract_source_at_seven :
    run ["--block=7", "epoch-counter", "--json"] { address := some " 0x1\t" }
        (returning (Bytes.ofNat 32 5)) =
      run ["--contract", "0x1", "--block", "7", "epoch-counter", "--json"] {}
        (returning (Bytes.ofNat 32 5)) ∧
    run ["--contract", "0x1", "--block", "7", "epoch-counter", "--json"] { address := some "0xff" }
        (returning (Bytes.ofNat 32 5)) =
      run ["--contract", "0x1", "--block", "7", "epoch-counter", "--json"] {}
        (returning (Bytes.ofNat 32 5)) := by
  have accepted : Address.ofText "0x1" = .ok one := by cbv
  have given : Gives ["--contract", "0x1", "--block", "7"] [("--contract", "0x1"), ("--block", "7")] :=
    .apart (by decide) (.apart (by decide) .nil)
  have last : LastValue [("--contract", "0x1"), ("--block", "7")] "--contract" "0x1" :=
    ⟨[], [("--block", "7")], rfl, by decide⟩
  have given' : Gives ["--block=7"]
      ([("--contract", "0x1"), ("--block", "7")].filter (·.1 ≠ "--contract")) :=
    @Gives.joined "--block" "7" [] [] (by decide) .nil
  have pads : Text.Pads " 0x1\t" "0x1" :=
    ⟨[' '], ['\t'], rfl, List.forall_mem_singleton.2 rfl, List.forall_mem_singleton.2 rfl⟩
  have plain : Text.Pads "0xff" "0xff" :=
    ⟨[], [], rfl, List.forall_mem_nil _, List.forall_mem_nil _⟩
  obtain ⟨other, haccepted⟩ : ∃ b, Address.ofText "0xff" = .ok b := ⟨_, rfl⟩
  have hruns := run_contract_source given last accepted given' .epochCounter ["--json"] {}
    (returning (Bytes.ofNat 32 5))
  exact ⟨hruns.1 " 0x1\t" pads, hruns.2 (some "0xff") (some other) (.named haccepted plain)⟩

end CommandLine

end ValidatorReader
