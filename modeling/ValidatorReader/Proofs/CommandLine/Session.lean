import ValidatorReader.Proofs.CommandLine.Options
import ValidatorReader.Proofs.CommandLine.Texts
import ValidatorReader.Proofs.Settings

/-!
# How a run goes on

A run whose arguments name a command opens a session from its settings and options. Then the command
is declined, or its reading fails, or the reading is shown: these ways are the rules of a relation,
from which what holds of every run is read off.
-/

namespace ValidatorReader

namespace CommandLine

variable {env : Environment} {node : Node} {args rest : List String} {options : Parsed}
  {settings : Settings} {c : Command} {a : Address}

/-! ## Opening a session -/

def configurationEvents (settings : Settings) : List Event :=
  settings.readingEvents ++ [.loggingConfigured settings.logLevel settings.logFile]

def endpoint (options : Parsed) (settings : Settings) : String :=
  ((options.value? "--rpc-url").bind Settings.nonempty?).getD settings.rpcUrl

def connectionEvents (options : Parsed) (settings : Settings) : List Event :=
  configurationEvents settings ++ [.clientOpened (endpoint options settings) settings.rpcTimeout]

def blockText (options : Parsed) : String :=
  (options.value? "--block").getD "latest"

/-- Sessions depend on the options only through the values that count. -/
theorem openSession_congr {options options' : Parsed}
    (hcontract : chooseContract (options.value? "--contract") =
      chooseContract (options'.value? "--contract"))
    (hurl : options.value? "--rpc-url" = options'.value? "--rpc-url")
    (hblock : options.value? "--block" = options'.value? "--block") (env : Environment) :
    openSession env options = openSession env options' := by
  simp only [openSession, hcontract, hurl, hblock]

theorem openSession_of_unusable {e : SettingsError} (h : Settings.read env = .error e) :
    openSession env options = ([], .error (.failure (.settings e))) := by
  simp only [openSession, Settings.ofEnvironment_of_error h]
  rfl

/-- With settings that can be used, the contract decides first and the block after it. -/
theorem openSession_of_settings (h : Settings.read env = .ok settings) :
    openSession env options =
      match chooseContract (options.value? "--contract") settings with
      | .error e => (configurationEvents settings, .error (.usage e))
      | .ok a =>
        match BlockChoice.ofText (blockText options) with
        | .error e => (connectionEvents options settings, .error (.usage (.badBlock e)))
        | .ok block =>
          (connectionEvents options settings ++ [Controller.created], .ok ⟨a, block⟩) := by
  simp only [openSession, Settings.ofEnvironment_of_ok h]
  rfl

theorem openSession_of_contract {block : BlockChoice} (h : Settings.read env = .ok settings)
    (hcontract : chooseContract (options.value? "--contract") settings = .ok a)
    (hblock : BlockChoice.ofText (blockText options) = .ok block) :
    openSession env options =
      (connectionEvents options settings ++ [Controller.created], .ok ⟨a, block⟩) := by
  simp only [openSession_of_settings h, hcontract, hblock]

/-- The block of a session is the one that the block argument names. -/
theorem ofText_blockText_of_openSession {events : List Event} {s : Session}
    (h : openSession env options = (events, .ok s)) :
    BlockChoice.ofText (blockText options) = .ok s.block := by
  cases hread : Settings.read env with
  | error e =>
    rw [openSession_of_unusable hread] at h
    cases h
  | ok settings =>
    rw [openSession_of_settings hread] at h
    cases hcontract : chooseContract (options.value? "--contract") settings with
    | error e =>
      simp only [hcontract] at h
      cases h
    | ok a =>
      cases hblock : BlockChoice.ofText (blockText options) with
      | error e =>
        simp only [hcontract, hblock] at h
        cases h
      | ok block =>
        simp only [hcontract, hblock] at h
        cases h
        rfl

theorem quiet_configurationEvents (settings : Settings) :
    Quiet (configurationEvents settings) := by
  have hreading : Quiet settings.readingEvents := by
    unfold Settings.readingEvents
    split
    · exact quiet_cons rfl quiet_nil
    · exact quiet_nil
  exact hreading.append (quiet_cons rfl quiet_nil)

theorem quiet_connectionEvents (options : Parsed) (settings : Settings) :
    Quiet (connectionEvents options settings) :=
  (quiet_configurationEvents settings).append (quiet_cons rfl quiet_nil)

/-- Until a session is open the node is not used and no failure is recorded. -/
theorem quiet_openSession (env : Environment) (options : Parsed) :
    Quiet (openSession env options).1 := by
  cases hread : Settings.read env with
  | error e =>
    rw [openSession_of_unusable hread]
    exact quiet_nil
  | ok settings =>
    rw [openSession_of_settings hread]
    cases chooseContract (options.value? "--contract") settings with
    | error e => exact quiet_configurationEvents settings
    | ok a =>
      cases BlockChoice.ofText (blockText options) with
      | error e => exact quiet_connectionEvents options settings
      | ok block => exact (quiet_connectionEvents options settings).append (quiet_cons rfl quiet_nil)

theorem quiet_of_openSession {events : List Event} {result : Except SessionError Session}
    (opened : openSession env options = (events, result)) : Quiet events := by
  have hquiet := quiet_openSession env options
  rwa [opened] at hquiet

/-! ## From the options to the end -/

/-- How a run goes on from its options: the session is refused or its settings are unusable, the
command shows its help or is used wrongly, the reading fails, or it is shown. -/
inductive Course (env : Environment) (node : Node) (options : Parsed) (c : Command)
    (rest : List String) : Report → Prop
  | refused {events : List Event} {e : UsageError}
    (opened : openSession env options = (events, .error (.usage e))) :
    Course env node options c rest (misused events .program e)
  | unsettled {events : List Event} {e : Failure}
    (opened : openSession env options = (events, .error (.failure e))) :
    Course env node options c rest (stopped events e)
  | misused {events : List Event} {s : Session} (e : UsageError)
    (opened : openSession env options = (events, .ok s)) :
    Course env node options c rest (misused events (.command c) e)
  | helped {events : List Event} {s : Session}
    (opened : openSession env options = (events, .ok s)) :
    Course env node options c rest (helped events (.command c))
  | failed {events : List Event} {s : Session} {e : Failure}
    (opened : openSession env options = (events, .ok s))
    (reading : (readContract node s c).result = .error e) :
    Course env node options c rest (stopped (events ++ (readContract node s c).events) e)
  | answered {events : List Event} {s : Session} {flags : Parsed} {block : Int}
    {result : Reading} {stdout : String} (opened : openSession env options = (events, .ok s))
    (parsed : parse commandOptions true rest = .ok flags)
    (reading : (readContract node s c).result = .ok (block, result))
    (shown : output (flags.has "--json") block result = .ok stdout) :
    Course env node options c rest { events := events ++ (readContract node s c).events, stdout }

/-- A command with an open session goes on in one of the ways. -/
theorem course_runCommand {events : List Event} {s : Session}
    (opened : openSession env options = (events, .ok s)) :
    Course env node options c rest (runCommand events node s c rest) := by
  unfold runCommand
  split
  · exact .misused _ opened
  · rename_i flags parsed
    split
    · exact .helped opened
    · split
      · exact .misused _ opened
      · cases reading : (readContract node s c).result with
        | error e =>
          simp only [reading]
          exact .failed opened reading
        | ok answer =>
          obtain ⟨block, result⟩ := answer
          obtain ⟨stdout, shown⟩ := exists_output_of_reading (flags.has "--json") reading
          simp only [reading, shown]
          exact .answered opened parsed reading shown

/-- A run whose arguments name a command opens a session first. -/
theorem run_eq_of_parse (hparse : parse programOptions false args = .ok options)
    (hhelp : options.has helpOption.name = false) (hrest : options.rest = c.name :: rest)
    (env : Environment) (node : Node) :
    run args env node =
      match openSession env options with
      | (events, .error (.usage e)) => misused events .program e
      | (events, .error (.failure e)) => stopped events e
      | (events, .ok s) => runCommand events node s c rest := by
  have hargs : args.isEmpty = false := by
    cases args with
    | nil =>
      cases hparse
      cases hrest
    | cons arg args => rfl
  rcases hopen : openSession env options with ⟨events, (e | e) | s⟩ <;>
    simp only [run, hargs, hparse, hhelp, hrest, Command.ofName?_name, hopen, if_false,
      Bool.false_eq_true]

theorem Command.classify_name (specs : List OptionSpec) (c : Command) :
    classify specs c.name = .ok .word := by
  apply classify_word
  cases c <;> exact nofun

/-- A run whose arguments give options and then name a command opens a session with these options. -/
theorem Gives.run_eq {given : List (String × String)} (h : Gives args given) (c : Command)
    (rest : List String) (env : Environment) (node : Node) :
    run (args ++ c.name :: rest) env node =
      match openSession env ⟨given, c.name :: rest⟩ with
      | (events, .error (.usage e)) => misused events .program e
      | (events, .error (.failure e)) => stopped events e
      | (events, .ok s) => runCommand events node s c rest := by
  have hparse : parse programOptions false (args ++ c.name :: rest) =
      .ok ⟨given, c.name :: rest⟩ := h.parse_append (c.classify_name _)
  have hhelp : (Parsed.mk given (c.name :: rest)).has helpOption.name = false := h.has_help _
  exact run_eq_of_parse hparse hhelp rfl env node

/-- Every run that comes to a command goes on in one of the ways, whatever its session comes to.
-/
theorem course_run (hparse : parse programOptions false args = .ok options)
    (hhelp : options.has helpOption.name = false) (hrest : options.rest = c.name :: rest)
    (env : Environment) (node : Node) :
    Course env node options c rest (run args env node) := by
  rw [run_eq_of_parse hparse hhelp hrest]
  rcases hopened : openSession env options with ⟨events, (e | e) | s⟩
  · exact .refused hopened
  · exact .unsettled hopened
  · exact course_runCommand hopened

/-- The report of a reading that gave a value. -/
theorem runCommand_of_reading (events : List Event) {asked : List Event} {s : Session} {flags : Parsed}
    {n : Int} {result : Reading} {stdout : String}
    (parsed : parse commandOptions true rest = .ok flags)
    (hhelp : flags.has helpOption.name = false) (hwords : flags.rest = [])
    (reading : readContract node s c = ⟨asked, .ok (n, result)⟩)
    (shown : output (flags.has "--json") n result = .ok stdout) :
    runCommand events node s c rest = { events := events ++ asked, stdout } := by
  have hnone : ¬ (!flags.rest.isEmpty) = true := by simp [hwords]
  unfold runCommand
  simp only [parsed, hhelp, Bool.false_eq_true, if_false, if_neg hnone, reading, shown]

theorem Command.eq_name_of_ofName? {name : String} (h : ofName? name = some c) :
    name = c.name := by
  have hname := List.find?_some h
  exact (of_decide_eq_true hname).symm

/-- A run that ends before anything is done: it shows a help or was used wrongly. -/
structure Idle (r : Report) : Prop where
  events : r.events = []
  escaped : r.escaped = none

theorem idle_misused (place : Place) (e : UsageError) : Idle (misused [] place e) := ⟨rfl, rfl⟩

theorem idle_helped (place : Place) : Idle (helped [] place) := ⟨rfl, rfl⟩

theorem idle_unknownCommand (name : String) (args : List String) :
    Idle (unknownCommand name args) := by
  unfold unknownCommand
  split
  · exact idle_misused _ _
  · split
    · exact idle_helped _
    · exact idle_misused _ _

/-- Every run is idle unless its arguments name a command. -/
theorem idle_or_course (args : List String) (env : Environment) (node : Node) :
    Idle (run args env node) ∨
      ∃ options c rest, parse programOptions false args = .ok options ∧
        options.rest = c.name :: rest ∧ Course env node options c rest (run args env node) := by
  cases hparse : parse programOptions false args with
  | error e =>
    left
    simp only [run, hparse]
    split
    · exact ⟨rfl, rfl⟩
    · exact idle_misused _ _
  | ok options =>
    cases hhelp : options.has helpOption.name with
    | true =>
      left
      simp only [run, hparse, hhelp, if_true]
      split
      · exact ⟨rfl, rfl⟩
      · exact idle_helped _
    | false =>
      cases hrest : options.rest with
      | nil =>
        left
        simp only [run, hparse, hhelp, hrest, Bool.false_eq_true, if_false]
        split
        · exact ⟨rfl, rfl⟩
        · exact idle_misused _ _
      | cons name rest =>
        cases hname : Command.ofName? name with
        | none =>
          left
          simp only [run, hparse, hhelp, hrest, hname, Bool.false_eq_true, if_false]
          split
          · exact ⟨rfl, rfl⟩
          · exact idle_unknownCommand _ _
        | some c =>
          have hcommand : name = c.name := Command.eq_name_of_ofName? hname
          subst hcommand
          exact .inr ⟨options, c, rest, rfl, hrest, course_run hparse hhelp hrest env node⟩

end CommandLine

end ValidatorReader
