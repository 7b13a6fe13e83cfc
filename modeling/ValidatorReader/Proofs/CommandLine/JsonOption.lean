import ValidatorReader.Proofs.CommandLine.Session

/-!
# Runs with and without the JSON option

The option that asks for JSON decides on nothing but the text of a reading that succeeds: a run with it
and one without it do the same, one thing after the other, and end in the same way. This needs that
both forms of a reading can be shown, since a form that failed would end its run with a failure.
-/

namespace ValidatorReader.CommandLine

open Node (returning)

variable {specs : List OptionSpec} {node : Node} {args words : List String}
  {options : List (String × String)} {c : Command}

/-! ## Arguments behind a command -/

theorem exists_of_map_withOption {read : Except UsageError Parsed} {name value : String}
    (h : read.map (Parsed.withOption name value) = .ok (Parsed.mk options words)) :
    ∃ others, read = .ok ⟨others, words⟩ ∧ options = (name, value) :: others := by
  cases read with
  | error e => cases h
  | ok p =>
    cases h
    exact ⟨p.options, rfl, rfl⟩

/-- What follows the first word is left to the command. -/
theorem parse_append (h : parse specs false args = .ok ⟨options, words⟩) (hne : words ≠ [])
    (tail : List String) : parse specs false (args ++ tail) = .ok ⟨options, words ++ tail⟩ := by
  induction args using parse.induct specs false generalizing options with
  | case1 =>
    cases h
    exact absurd rfl hne
  | case2 arg rest e hclassify => simp [parse, hclassify] at h
  | case3 arg rest hclassify =>
    simp only [parse, hclassify] at h
    cases h
    simp [parse, hclassify]
  | case4 arg rest hclassify hafter => cases hafter
  | case5 arg rest hclassify =>
    simp only [parse, hclassify, Bool.false_eq_true, if_false] at h
    cases h
    simp [parse, hclassify]
  | case6 arg rest name value hclassify ih =>
    simp only [parse, hclassify] at h
    obtain ⟨others, hrest, rfl⟩ := exists_of_map_withOption h
    simp only [List.cons_append, parse, hclassify, ih hrest]
    rfl
  | case7 arg name hclassify => simp [parse, hclassify] at h
  | case8 arg name hclassify value rest ih =>
    simp only [parse, hclassify] at h
    obtain ⟨others, hrest, rfl⟩ := exists_of_map_withOption h
    simp only [List.cons_append, parse, hclassify, ih hrest]
    rfl

theorem map_withOption_eq_error_iff {read : Except UsageError Parsed} {name value : String}
    {e : UsageError} : read.map (Parsed.withOption name value) = .error e ↔ read = .error e := by
  cases read <;> simp [Except.map]

/-- Arguments that are wrong before a word stay wrong whatever follows the word. -/
theorem parse_append_of_error {word : String} {e : UsageError}
    (hword : classify specs word = .ok .word) (h : parse specs false (args ++ [word]) = .error e)
    (tail : List String) : parse specs false (args ++ word :: tail) = .error e := by
  induction args using parse.induct specs false with
  | case1 => simp [parse, hword] at h
  | case2 arg rest e' hclassify =>
    simp only [List.cons_append, parse, hclassify] at h ⊢
    exact h
  | case3 arg rest hclassify => simp [parse, hclassify] at h
  | case4 arg rest hclassify hafter => cases hafter
  | case5 arg rest hclassify => simp [parse, hclassify] at h
  | case6 arg rest name value hclassify ih =>
    simp only [List.cons_append, parse, hclassify, map_withOption_eq_error_iff] at h ⊢
    exact ih h
  | case7 arg name hclassify => simp [parse, hclassify, Except.map] at h
  | case8 arg name hclassify value rest ih =>
    simp only [List.cons_append, parse, hclassify, map_withOption_eq_error_iff] at h ⊢
    exact ih h

/-- The option adds itself in front of what the other arguments give. -/
theorem parse_json_cons (rest : List String) :
    parse commandOptions true ("--json" :: rest) =
      (parse commandOptions true rest).map (.withOption "--json" "") := by
  have hclassify : classify commandOptions "--json" = .ok (.set "--json" "") := by decide +kernel
  rw [parse, hclassify]

/-- The option that asks for JSON is not the one that asks for help. -/
theorem has_help_withOption_json (flags : Parsed) :
    (flags.withOption "--json" "").has helpOption.name = flags.has helpOption.name := by
  have hother : decide ("--json" = helpOption.name) = false := by decide
  rw [Parsed.has, Parsed.withOption, List.any_cons, hother, Bool.false_or, Parsed.has]

/-! ## Two runs -/

/-- Whether two runs do the same and end in the same way, except that two runs that end well may show
different texts. -/
structure SameCourse (r r' : Report) : Prop where
  events : r.events = r'.events
  exitCode : r.exitCode = r'.exitCode
  escaped : r.escaped = r'.escaped
  stderr : r.stderr = r'.stderr
  stdout : r.exitCode ≠ 0 → r.stdout = r'.stdout

theorem SameCourse.refl (r : Report) : SameCourse r r :=
  ⟨rfl, rfl, rfl, rfl, fun _ ↦ rfl⟩

/-- The option changes what a command shows and nothing else. -/
theorem sameCourse_runCommand (events : List Event) (node : Node) (s : Session) (c : Command)
    (rest : List String) :
    SameCourse (runCommand events node s c rest) (runCommand events node s c ("--json" :: rest)) := by
  cases hparse : parse commandOptions true rest with
  | error e =>
    have hjson : parse commandOptions true ("--json" :: rest) = .error e := by
      rw [parse_json_cons, hparse]
      rfl
    simp only [runCommand, hparse, hjson]
    exact .refl _
  | ok flags =>
    have hjson : parse commandOptions true ("--json" :: rest) =
        .ok (flags.withOption "--json" "") := by
      rw [parse_json_cons, hparse]
      rfl
    have hrest : (flags.withOption "--json" "").rest = flags.rest := rfl
    simp only [runCommand, hparse, hjson, has_help_withOption_json, hrest]
    split
    · exact .refl _
    split
    · exact .refl _
    cases hread : (readContract node s c).result with
    | error e => exact .refl _
    | ok answer =>
      obtain ⟨block, reading⟩ := answer
      obtain ⟨text, htext⟩ := exists_output_of_reading (flags.has "--json") hread
      obtain ⟨text', htext'⟩ :=
        exists_output_of_reading ((flags.withOption "--json" "").has "--json") hread
      simp only [htext, htext']
      exact ⟨rfl, rfl, rfl, rfl, fun hcode ↦ absurd rfl hcode⟩

/-- Whatever stands before a command, unless it takes the name of the command for something else, and
whatever the environment and the node are: the runs with and without the option that asks for JSON do
the same and end in the same way. They differ at most in the text that they show when they end well. -/
theorem run_json
    (reached : ∀ p, parse programOptions false (args ++ [c.name]) = .ok p → p.rest = [c.name])
    (rest : List String) (env : Environment) (node : Node) :
    SameCourse (run (args ++ c.name :: rest) env node)
      (run (args ++ c.name :: "--json" :: rest) env node) := by
  have hargs (tail : List String) : (args ++ c.name :: tail).isEmpty = false := by simp
  cases hgroup : parse programOptions false (args ++ [c.name]) with
  | error e =>
    have hparse (tail : List String) : parse programOptions false (args ++ c.name :: tail) =
        .error e := parse_append_of_error (c.classify_name _) hgroup tail
    simp only [run, hargs, hparse]
    exact .refl _
  | ok p =>
    obtain ⟨options, words⟩ := p
    obtain rfl : words = [c.name] := reached _ hgroup
    have hparse (tail : List String) : parse programOptions false (args ++ c.name :: tail) =
        .ok ⟨options, c.name :: tail⟩ := by
      have happended := parse_append hgroup (List.cons_ne_nil _ _) tail
      rwa [List.append_assoc, List.singleton_append] at happended
    cases hhelp : (Parsed.mk options [c.name]).has helpOption.name with
    | true =>
      have htrue (tail : List String) :
          (Parsed.mk options (c.name :: tail)).has helpOption.name = true := hhelp
      simp only [run, hargs, hparse, htrue, Bool.false_eq_true, if_false, if_true]
      exact .refl _
    | false =>
      have hrun (tail : List String) := run_eq_of_parse (hparse tail) hhelp rfl env node
      have hopen : openSession env ⟨options, c.name :: "--json" :: rest⟩ =
          openSession env ⟨options, c.name :: rest⟩ := by
        apply openSession_congr <;> rfl
      rw [hrun, hrun, hopen]
      rcases openSession env ⟨options, c.name :: rest⟩ with ⟨events, (e | e) | s⟩
      · exact .refl _
      · exact .refl _
      · exact sameCourse_runCommand events node s c rest

/-- The counter at a block, as text and as JSON. -/
theorem run_json_at_twelve :
    SameCourse
      (run ["--block=12", "epoch-counter"] { address := some "0x1" } (returning (Bytes.ofNat 32 9)))
      (run ["--block=12", "epoch-counter", "--json"] { address := some "0x1" }
        (returning (Bytes.ofNat 32 9))) := by
  have given : Gives ["--block=12"] [("--block", "12")] :=
    @Gives.joined "--block" "12" [] [] (by decide) .nil
  have parsed : parse programOptions false (["--block=12"] ++ [Command.epochCounter.name]) =
      .ok ⟨[("--block", "12")], [Command.epochCounter.name]⟩ :=
    given.parse_append (Command.classify_name _ .epochCounter)
  have reached (p : Parsed) (hp : parse programOptions false
      (["--block=12"] ++ [Command.epochCounter.name]) = .ok p) :
      p.rest = [Command.epochCounter.name] := by
    rw [parsed] at hp
    cases hp
    rfl
  have hplain : ["--block=12"] ++ [Command.epochCounter.name] = ["--block=12", "epoch-counter"] :=
    rfl
  have hjson : ["--block=12"] ++ [Command.epochCounter.name, "--json"] =
      ["--block=12", "epoch-counter", "--json"] := rfl
  rw [← hplain, ← hjson]
  exact run_json reached [] { address := some "0x1" } (returning (Bytes.ofNat 32 9))

end ValidatorReader.CommandLine
