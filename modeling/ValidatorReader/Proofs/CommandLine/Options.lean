import Mathlib
import ValidatorReader.CommandLine.Options

/-!
# Options before a command

Each option of the program that takes a value has it in the next argument or behind an equals sign.
Arguments of this form in front of the name of a command are read as the options that they give, in
order, and of several values for one option the last counts.
-/

namespace ValidatorReader.CommandLine

/-- The options of the program that take a value. -/
def valueOptions : List String := ["--rpc-url", "--contract", "--block"]

/-- Arguments that give options with their values, whatever the values are. -/
inductive Gives : List String → List (String × String) → Prop
  | nil : Gives [] []
  | apart {name value : String} {args : List String} {options : List (String × String)}
    (known : name ∈ valueOptions) (rest : Gives args options) :
    Gives (name :: value :: args) ((name, value) :: options)
  | joined {name value : String} {args : List String} {options : List (String × String)}
    (known : name ∈ valueOptions) (rest : Gives args options) :
    Gives ((name ++ "=" ++ value) :: args) ((name, value) :: options)

/-- The value that counts for an option: no later value is given for it. -/
def LastValue (options : List (String × String)) (name value : String) : Prop :=
  ∃ before after, options = before ++ (name, value) :: after ∧ ∀ o ∈ after, o.1 ≠ name

/-- Whether an option is not given at all. -/
def NotGiven (options : List (String × String)) (name : String) : Prop :=
  ∀ o ∈ options, o.1 ≠ name

instance (options : List (String × String)) (name : String) : Decidable (NotGiven options name) :=
  inferInstanceAs (Decidable (∀ o ∈ options, o.1 ≠ name))

/-! ## Single arguments -/

variable {specs : List OptionSpec} {arg name value : String} {args : List String}
  {options : List (String × String)} {cs : List Char}

theorem startsWith_dash_iff : arg.startsWith "-" = true ↔ ∃ cs, arg.toList = '-' :: cs := by
  rw [String.startsWith_string_iff]
  have hdash : "-".toList = ['-'] := rfl
  rw [hdash]
  constructor
  · rintro ⟨cs, hcs⟩
    exact ⟨cs, hcs.symm⟩
  · rintro ⟨cs, hcs⟩
    exact ⟨cs, hcs.symm⟩

/-- An argument without a dash in front is no option. -/
theorem classify_word (h : ∀ cs, arg.toList ≠ '-' :: cs) : classify specs arg = .ok .word := by
  have hends : arg ≠ "--" := by
    rintro rfl
    exact h _ rfl
  have hstarts : ¬ arg.startsWith "-" = true := by
    rw [startsWith_dash_iff]
    exact not_exists.2 h
  unfold classify
  rw [if_neg hends, if_pos (.inl hstarts)]

/-- Any other argument than one or two dashes is an option if it begins with a dash. -/
theorem classify_of_find? {spec : OptionSpec} (hdash : arg.toList = '-' :: cs) (hends : arg ≠ "--")
    (hsingle : arg ≠ "-") (h : specs.find? (·.name = (splitEquals arg).1) = some spec) :
    classify specs arg =
      match spec.takesValue, (splitEquals arg).2 with
      | true, some v => .ok (.set (splitEquals arg).1 v)
      | true, none => .ok (.needsValue (splitEquals arg).1)
      | false, some _ => .error (.unexpectedValue (splitEquals arg).1)
      | false, none => .ok (.set (splitEquals arg).1 "") := by
  have hstarts : arg.startsWith "-" = true := startsWith_dash_iff.2 ⟨cs, hdash⟩
  have hoption : ¬ (¬ arg.startsWith "-" = true ∨ arg = "-") := by
    rw [not_or, not_not]
    exact ⟨hstarts, hsingle⟩
  unfold classify
  rw [if_neg hends, if_neg hoption]
  cases hvalue : spec.takesValue <;> cases hgiven : (splitEquals arg).2 <;>
    simp only [h, hvalue, hgiven]

/-- Of several equals signs the first one separates a name from its value. -/
theorem splitEquals_joined (h : '=' ∉ name.toList) :
    splitEquals (name ++ "=" ++ value) = (name, some value) := by
  have hchars : (name ++ "=" ++ value).toList = name.toList ++ '=' :: value.toList := by simp
  have hname : (name.toList ++ '=' :: value.toList).takeWhile (· != '=') = name.toList := by
    rw [List.takeWhile_append_of_pos]
    · simp
    · intro c hc
      rw [bne_iff_ne]
      rintro rfl
      exact h hc
  unfold splitEquals
  simp only [hchars, hname, List.drop_left, String.ofList_toList]

/-- What is needed of the name of an option that takes a value. -/
theorem valueOption_name (known : name ∈ valueOptions) :
    (∃ cs, name.toList = '-' :: cs) ∧ name ≠ "--" ∧ name ≠ "-" ∧ '=' ∉ name.toList ∧
      splitEquals name = (name, none) ∧
      programOptions.find? (·.name = name) = some ⟨name, true⟩ := by
  simp only [valueOptions, List.mem_cons, List.not_mem_nil, or_false] at known
  rcases known with rfl | rfl | rfl <;>
    exact ⟨⟨_, rfl⟩, by decide, by decide, by decide, by decide, by decide⟩

theorem classify_apart (known : name ∈ valueOptions) :
    classify programOptions name = .ok (.needsValue name) := by
  obtain ⟨⟨cs, hdash⟩, hends, hsingle, _, hsplit, hfound⟩ := valueOption_name known
  have hspec : programOptions.find? (·.name = (splitEquals name).1) = some ⟨name, true⟩ := by
    rw [hsplit]
    exact hfound
  rw [classify_of_find? hdash hends hsingle hspec, hsplit]

/-- An option may have its value behind an equals sign. -/
theorem classify_joined (known : name ∈ valueOptions) :
    classify programOptions (name ++ "=" ++ value) = .ok (.set name value) := by
  obtain ⟨⟨cs, hdash⟩, _, _, hequals, _, hfound⟩ := valueOption_name known
  have hsplit : splitEquals (name ++ "=" ++ value) = (name, some value) :=
    splitEquals_joined hequals
  have hchars : (name ++ "=" ++ value).toList = '-' :: (cs ++ '=' :: value.toList) := by
    simp [hdash]
  have hmember : '=' ∈ (name ++ "=" ++ value).toList := by simp
  have hends : name ++ "=" ++ value ≠ "--" := by
    intro h
    rw [h] at hmember
    exact absurd hmember (by decide)
  have hsingle : name ++ "=" ++ value ≠ "-" := by
    intro h
    rw [h] at hmember
    exact absurd hmember (by decide)
  have hspec : programOptions.find? (·.name = (splitEquals (name ++ "=" ++ value)).1) =
      some ⟨name, true⟩ := by
    rw [hsplit]
    exact hfound
  rw [classify_of_find? hchars hends hsingle hspec, hsplit]

/-! ## All arguments before a command -/

/-- Arguments that give options are read as these, up to the first word. -/
theorem Gives.parse_append (h : Gives args options) {word : String} {rest : List String}
    (hword : classify programOptions word = .ok .word) :
    parse programOptions false (args ++ word :: rest) = .ok ⟨options, word :: rest⟩ := by
  induction h with
  | nil => simp [parse, hword]
  | apart known _ ih =>
    simp only [List.cons_append, parse, classify_apart known, ih]
    rfl
  | joined known _ ih =>
    simp only [List.cons_append, parse, classify_joined known, ih]
    rfl

/-- Options that are given with a value are among those that take one. -/
theorem Gives.name_mem (h : Gives args options) {o : String × String} (ho : o ∈ options) :
    o.1 ∈ valueOptions := by
  induction h with
  | nil => cases ho
  | apart known _ ih =>
    rcases List.mem_cons.1 ho with rfl | ho
    · exact known
    · exact ih ho
  | joined known _ ih =>
    rcases List.mem_cons.1 ho with rfl | ho
    · exact known
    · exact ih ho

/-- None of the options that take a value asks for help. -/
theorem Gives.has_help (h : Gives args options) (rest : List String) :
    (Parsed.mk options rest).has helpOption.name = false := by
  rw [Parsed.has, List.any_eq_false]
  intro o ho hname
  have hmem := h.name_mem ho
  rw [of_decide_eq_true hname] at hmem
  exact absurd hmem (by decide)

/-! ## Values that count -/

/-- The value given last is the one that counts. -/
theorem lastValue_concat (options : List (String × String)) (name value : String) :
    LastValue (options ++ [(name, value)]) name value := by
  refine ⟨options, [], rfl, ?_⟩
  intro o ho
  cases ho

/-- Of several values for one option the last one counts. -/
theorem value?_of_lastValue (h : LastValue options name value) (rest : List String) :
    (Parsed.mk options rest).value? name = some value := by
  obtain ⟨before, after, rfl, hafter⟩ := h
  have hnone : after.reverse.find? (·.1 = name) = none := by
    rw [List.find?_eq_none]
    intro o ho
    simpa using hafter o (List.mem_reverse.1 ho)
  simp [Parsed.value?, List.find?_append, hnone]

theorem value?_of_notGiven (h : NotGiven options name) (rest : List String) :
    (Parsed.mk options rest).value? name = none := by
  have hnone : options.reverse.find? (·.1 = name) = none := by
    rw [List.find?_eq_none]
    intro o ho
    simpa using h o (List.mem_reverse.1 ho)
  simp [Parsed.value?, hnone]

theorem notGiven_filter (options : List (String × String)) (name : String) :
    NotGiven (options.filter (·.1 ≠ name)) name := by
  intro o ho
  exact of_decide_eq_true (List.mem_filter.1 ho).2

/-- Leaving out one option changes no other. -/
theorem value?_filter_of_ne {other : String} (h : other ≠ name) (rest : List String) :
    (Parsed.mk (options.filter (·.1 ≠ name)) rest).value? other =
      (Parsed.mk options rest).value? other := by
  simp only [Parsed.value?, ← List.filter_reverse, List.find?_filter]
  congr 2
  funext o
  by_cases ho : o.1 = other
  · simp [ho, h]
  · simp [ho]

end ValidatorReader.CommandLine
