import ValidatorReader.Proofs.Log.Agreement
import ValidatorReader.Proofs.Log.Instant

/-!
# Setups that fail

A setup that fails at its level has only made its logger known, which changes no logger: records go where
they went before. A setup that fails at its log file has already taken the place of the earlier one, but
for the file: the logger has the new level, and no handler but that for the console, if it is asked for.
Other loggers, and the texts in all files, are as before in either case.
-/

namespace ValidatorReader.Log

/-! ## Files are not written to -/

namespace Disk

variable {d d' : Disk} {p : Path}

theorem contents_makeDirectory {above : List String} {name : String}
    (h : d.makeDirectory above name = .ok d') : d'.contents = d.contents := by
  obtain ⟨_, -, rfl | ⟨-, rfl⟩⟩ := makeDirectory_cases h <;> rfl

theorem contents_makeDirectories (d : Disk) (parts : List String) :
    (d.makeDirectories parts).1.contents = d.contents :=
  rel_makeDirectories (R := fun d d' ↦ d'.contents = d.contents) (fun _ ↦ rfl)
    (fun h h' ↦ h'.trans h) contents_makeDirectory d parts

end Disk

namespace Logging

variable {l : Logging} {s : Setup} {e : Error} {name : String}

/-- Where a log file cannot be opened, at most directories have been made. -/
theorem openLog_of_error {d d' : Disk} {file : String} {cause : DiskError}
    (h : openLog d s file = (d', .error cause)) : d.Extends d' ∧ d'.contents = d.contents := by
  have hextends := Disk.extends_makeDirectories d (Path.partsOfText file).dropLast.reverse
  have hcontents := Disk.contents_makeDirectories d (Path.partsOfText file).dropLast.reverse
  unfold openLog at h
  dsimp only at h
  split at h
  · rw [← (Prod.mk.inj h).1]
    exact ⟨hextends, hcontents⟩
  · split at h
    · rw [← (Prod.mk.inj h).1]
      exact ⟨hextends, hcontents⟩
    · cases (Prod.mk.inj h).2

/-! ## The two ways to fail -/

/-- How a setup fails, and what it leaves: its level stands for none, or its log file cannot be opened. -/
inductive Fails (l : Logging) (s : Setup) : Error → Logging → Prop
  | level {e : Error} (bad : levelOfSetting s.level = .error e) :
    Fails l s e (l.touch (loggerName s.name))
  | file {level : ℤ} {file : String} {d : Disk} {cause : DiskError}
    (good : levelOfSetting s.level = .ok level) (set : s.logFile = some file) (named : file ≠ "")
    (unopened : openLog l.disk s file = (d, .error cause)) :
    Fails l s (.disk cause) (({ l.touch (loggerName s.name) with disk := d } : Logging).put
      (loggerName s.name) ⟨level, consoleHandlers s⟩)

/-- A setup that fails does so in one of the ways, with the state that way leaves. -/
theorem fails_of_setup (h : (l.setup s).result = .error e) : Fails l s e (l.setup s).logging := by
  unfold setup at h ⊢
  cases hlevel : levelOfSetting s.level with
  | error cause =>
    rw [hlevel] at h
    rw [← Except.error.inj h]
    exact .level hlevel
  | ok level =>
    rw [hlevel] at h
    cases hfile : s.logFile with
    | none =>
      rw [hfile] at h
      cases h
    | some file =>
      rw [hfile] at h
      dsimp only at h ⊢
      split at h
      case isTrue => cases h
      case isFalse hne =>
        rw [if_neg hne]
        split at h
        case h_1 opened cause hopened =>
          rw [← Except.error.inj h]
          exact .file hlevel hfile (by simpa using hne) (Prod.ext rfl hopened)
        case h_2 => cases h

/-- Putting a logger that is there already changes nothing. -/
theorem insert_of_lookup {logger : Logger} {ls : List (String × Logger)}
    (h : ls.lookup name = some logger) : insert name logger ls = ls := by
  induction ls with
  | nil => cases h
  | cons e ls ih =>
    rw [insert]
    split
    case isTrue heq =>
      rw [List.lookup_cons, heq, beq_self_eq_true] at h
      rw [← Option.some.inj h, ← heq]
    case isFalse hne =>
      rw [List.lookup_cons, beq_false_of_ne (Ne.symm hne)] at h
      rw [ih h]

/-- A logger that is known already does not become known. -/
theorem touch_of_mem (h : name ∈ l.names) : l.touch name = l := by
  have hsome : (l.loggers.lookup name).isSome = true := by
    rw [List.lookup_isSome_iff]
    obtain ⟨e, he, hname⟩ := List.mem_map.1 h
    exact ⟨e, he, by simp [hname]⟩
  obtain ⟨logger, hlogger⟩ := Option.isSome_iff_exists.1 hsome
  rw [touch, get, hlogger, Option.getD_some, put, insert_of_lookup hlogger]

/-- Whether nothing has changed but that a logger may have become known, and whatever is set up and
logged from now on comes to the same. -/
structure IsUndisturbed (l : Logging) (name : String) (l' : Logging) : Prop where
  agrees : Agrees l' l
  known : name ∈ l.names → l' = l
  later : ∀ ops : List Operation, (∀ op ∈ ops, op.IsRegular) →
    (l'.performAll ops).2 = (l.performAll ops).2 ∧
      Agrees (l'.performAll ops).1 (l.performAll ops).1

/-- Whether a logger has a new level and no handlers but that for the console, if a setup asks for it,
and all else is as before: other loggers, what is found on the disk, and the texts in its files. -/
structure IsCutShort (l : Logging) (s : Setup) (level : ℤ) (l' : Logging) : Prop where
  logger : l'.get (loggerName s.name) = ⟨level, consoleHandlers s⟩
  others : ∀ n, n ≠ loggerName s.name → l'.get n = l.get n
  disk : l.disk.Extends l'.disk
  contents : l'.disk.contents = l.disk.contents

/-- A setup that fails at its level leaves all loggers as they were, so that records go where they went
before. One that fails at its log file leaves its logger with the new level and without the handlers that
it had. -/
theorem setup_of_failure (h : (l.setup s).result = .error e) :
    (levelOfSetting s.level = .error e ∧
      IsUndisturbed l (loggerName s.name) (l.setup s).logging) ∨
    ∃ level cause, levelOfSetting s.level = .ok level ∧ e = .disk cause ∧
      IsCutShort l s level (l.setup s).logging := by
  have hfails := fails_of_setup h
  generalize (l.setup s).logging = l' at hfails
  cases hfails with
  | level bad =>
    have hagrees := agrees_touch l (loggerName s.name)
    exact .inl ⟨bad, hagrees, touch_of_mem, fun _ hops ↦ hagrees.performAll hops⟩
  | file good set named unopened =>
    have hdisk := openLog_of_error unopened
    refine .inr ⟨_, _, good, rfl, ⟨get_put_self _ _ _, ?_, hdisk.1, hdisk.2⟩⟩
    intro n hn
    exact (get_put_of_ne _ _ hn).trans (get_touch l (loggerName s.name) n)

/-- A logger that was set up once. -/
def onceSetUp : Logging where
  loggers := [("vc_test", ⟨20, [.console "vc_test"]⟩)]

/-- A setup whose level is none. -/
def loudSetup : Setup := { name := "vc_test", level := "loud" }

/-- A setup whose log file is a directory. -/
def directorySetup : Setup :=
  { name := "vc_test", level := "error", logFile := some "/", console := false }

/-- A setup at an unknown level changes nothing once the logger is set up; one with a directory for its log
file takes the handlers of the logger away. -/
theorem setup_of_failure_once_set_up :
    (onceSetUp.setup loudSetup).result = .error (.unknownLevelName "LOUD") ∧
    (onceSetUp.setup loudSetup).logging = onceSetUp ∧
    (onceSetUp.setup directorySetup).result = .error (.disk (.isADirectory "/")) ∧
    IsCutShort onceSetUp directorySetup 40 (onceSetUp.setup directorySetup).logging := by
  have hloud : (onceSetUp.setup loudSetup).result = .error (.unknownLevelName "LOUD") := by
    decide +kernel
  have hdirectory : (onceSetUp.setup directorySetup).result = .error (.disk (.isADirectory "/")) := by
    decide +kernel
  refine ⟨hloud, ?loud, hdirectory, ?directory⟩
  case loud =>
    cases setup_of_failure hloud with
    | inl h => exact h.2.known (by decide +kernel)
    | inr h =>
      obtain ⟨_, _, _, hcause, _⟩ := h
      cases hcause
  case directory =>
    have hlevel : levelOfSetting directorySetup.level = .ok 40 := by decide +kernel
    cases setup_of_failure hdirectory with
    | inl h =>
      rw [hlevel] at h
      cases h.1
    | inr h =>
      obtain ⟨level, _, hgood, _, hcut⟩ := h
      rw [hlevel] at hgood
      rwa [← Except.ok.inj hgood] at hcut

/-- A record to be shown before and after a setup that fails. -/
def repeated (logger : String) (level : ℤ) : Record where
  logger := logger
  level := level
  message := .text "m"
  path := "mod.py"
  line := 1
  function := "fn"

/-- A setup that fails at its log file takes the handlers away, and the logger lets less through. One that
fails at its level can still bring a logger onto the way of a name with two dots side by side. -/
theorem not_unchanged_after_failure :
    (setupAll {} [{ name := "vc_test" }] = .ok onceSetUp ∧
      (onceSetUp.setup directorySetup).logging.get "vc_test" = ⟨40, []⟩ ∧
      (onceSetUp.log Instant.start (repeated "vc_test" 20)).result = .ok true ∧
      ((onceSetUp.setup directorySetup).logging.log Instant.start (repeated "vc_test" 20)).result = .ok false) ∧
    ∃ l, setupAll {} [{ name := "a" }] = .ok l ∧
      let before := (l.log Instant.start (repeated "a..b" 30)).logging
      let after := (before.setup { name := "a.", level := "loud" }).logging
      (before.log Instant.start (repeated "a..b" 30)).shown = "m\n" ∧
      (after.log Instant.start (repeated "a..b" 30)).shown ≠ "m\n" := by
  refine ⟨⟨by decide +kernel, by decide +kernel, by decide +kernel, by decide +kernel⟩,
    ⟨[("a", ⟨20, [.console "a"]⟩)], {}⟩, by decide +kernel, by decide +kernel, by decide +kernel⟩

end Logging

end ValidatorReader.Log
