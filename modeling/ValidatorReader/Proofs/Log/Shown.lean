import ValidatorReader.Proofs.Json.Lines
import ValidatorReader.Proofs.Log.Instant
import ValidatorReader.Proofs.Log.Setups

/-!
# Records on the console

After setups that succeed a record shows up on the console once for each logger on its way to the root
whose last setup asks for the console, however often loggers were set up, and in one line each time. A
record that its logger does not let through leaves no trace.
-/

namespace ValidatorReader.Log.Logging

variable {l : Logging} {setups : List Setup} {r : Record} {clock : Clock}
  {line : Instant → String → String}

/-! ## What handlers show -/

/-- What a handler shows of a record that is written for any service. -/
def shownBy (line : String → String) : Handler → String
  | .console service => line service ++ "\n"
  | .file _ _ => ""

/-- Whether a record is written at any time and for any service, and in which lines. -/
def WrittenAs (r : Record) (line : Instant → String → String) : Prop :=
  ∀ now service, r.render service now = .ok (line now service)

/-- Each handler shows a line of its own, rendered at its own time. -/
theorem handleAll_shown (hline : WrittenAs r line) (times : ℕ → Times) (handlers : List Handler)
    (d : Disk) : (handleAll times r handlers d).2.2 =
      String.join (handlers.mapIdx fun index h ↦ shownBy (line (times index).written) h) := by
  induction handlers generalizing times d with
  | nil => rfl
  | cons h handlers ih =>
    rw [handleAll, List.mapIdx_cons, String.join_cons]
    show _ ++ (handleAll (fun index ↦ times (index + 1)) r handlers _).2.2 = _
    rw [ih]
    congr 1
    cases h with
    | console service => simp only [Handler.handle, hline _ service, shownBy]
    | file service f => simp only [Handler.handle, hline _ service, shownBy]

/-- What the handlers of a logger show of a record. -/
def shownAt (clock : Clock) (line : Instant → String → String) (l : Logging) (name : String) : String :=
  String.join ((l.get name).handlers.mapIdx fun index h ↦
    shownBy (line (clock.times name index).written) h)

/-- What is shown along a way is what its loggers show, in the order of the way. -/
theorem handleAlong_shown (hline : WrittenAs r line) (clock : Clock) {way : List String}
    (hway : way.Nodup) (l : Logging) :
    (handleAlong clock r way l).2 = String.join (way.map (shownAt clock line l)) := by
  induction way generalizing l with
  | nil => rfl
  | cons name way ih =>
    -- Handling puts the logger back with other handlers, so the rest of the way must not come to it.
    rw [List.nodup_cons] at hway
    rw [List.map_cons, String.join_cons]
    show (handleAll (clock.times name) r (l.get name).handlers l.disk).2.2 ++
      (handleAlong clock r way _).2 = _
    rw [handleAll_shown hline, ih hway.2]
    congr 2
    refine List.map_congr_left fun n hn ↦ ?_
    have hne : n ≠ name := fun h ↦ hway.1 (h ▸ hn)
    rw [shownAt, get_put_of_ne _ _ hne]
    rfl

/-- The last setups for loggers, of those that ask for the console. -/
def consoleSetups (setups : List Setup) (names : List String) : List Setup :=
  names.filterMap fun n ↦ (lastFor? setups n).filter (·.console)

/-- When the console handler that a setup asks for writes a line. -/
def consoleTime (clock : Clock) (s : Setup) : Instant :=
  (clock.times (loggerName s.name) 0).written

theorem name_of_lastFor? {s : Setup} {name : String} (h : lastFor? setups name = some s) :
    loggerName s.name = name := by
  simpa using List.find?_some h

theorem shownAt_eq (h : AreSetUp setups l) (name : String) : shownAt clock line l name =
    String.join ((consoleSetups setups [name]).map fun s ↦
      line (consoleTime clock s) (firstSegment s.name) ++ "\n") := by
  rw [shownAt]
  cases hlast : lastFor? setups name with
  | none =>
    rw [h.others name hlast]
    simp [consoleSetups, hlast, get]
  | some s =>
    obtain ⟨files, hfiles, hhandlers⟩ := (h.configured name s hlast).handlers
    have hname := name_of_lastFor? hlast
    rw [hhandlers, List.mapIdx_append, String.join_append]
    -- The handler for the console is the first one, and that for the file shows nothing.
    have hfile (start : ℕ) : String.join (files.mapIdx fun index h ↦
        shownBy (line (clock.times name (index + start)).written) h) = "" := by
      cases hfiles <;> rfl
    rw [hfile, String.append_empty]
    by_cases hconsole : s.console
    · simp [consoleSetups, hlast, consoleHandlers, hconsole, shownBy, Option.filter_some, consoleTime,
        hname]
    · simp [consoleSetups, hlast, consoleHandlers, hconsole, Option.filter_some]

/-- Along a way the setups that write to the console show one line each. -/
theorem join_shownAt (h : AreSetUp setups l) (way : List String) :
    String.join (way.map (shownAt clock line l)) =
      String.join ((consoleSetups setups way).map fun s ↦
        line (consoleTime clock s) (firstSegment s.name) ++ "\n") := by
  induction way with
  | nil => rfl
  | cons name way ih =>
    have hsplit : consoleSetups setups (name :: way) =
        consoleSetups setups [name] ++ consoleSetups setups way :=
      List.filterMap_append (l := [name])
    rw [hsplit, List.map_append, String.join_append, List.map_cons, String.join_cons, shownAt_eq h, ih]

/-- A record is written, in one line each, at any time and for any service if its message and arguments
go together. -/
theorem exists_writtenAs {parts : String × Entries} (hparts : r.messageParts = .ok parts) :
    ∃ line, WrittenAs r line ∧ ∀ now service, Json.IsPlainLine (line now service) := by
  have hmembers (now : Instant) (service : String) :
      ∃ entries, r.members service now = .ok entries := by
    rw [Record.members, hparts]
    exact ⟨_, rfl⟩
  choose entries hentries using hmembers
  refine ⟨fun now service ↦ (Value.dict (entries now service)).toJson, fun now service ↦ ?_,
    fun now service ↦ Json.isPlainLine_toJson _⟩
  rw [Record.render, hentries]
  rfl

theorem check_eq_ok (h : ∀ key ∈ r.extra.names, key ∉ reservedKeys) : r.check = .ok r := by
  rw [Record.check, reservedName?_eq_none_iff.2 h]

/-! ## Logging after setups -/

def wayOf (l : Logging) (r : Record) : List String :=
  (l.touch (loggerName r.logger)).wayToRoot (loggerName r.logger)

/-- Whether the logger of a record lets it through. -/
def letsThrough (l : Logging) (r : Record) : Bool :=
  (l.touch (loggerName r.logger)).isEnabled (loggerName r.logger) r.level

/-- Whether names are those of a way from a logger to the root after setups. -/
structure IsWay (setups : List Setup) (name : String) (way : List String) : Prop where
  first : way.head? = some name
  last : way.getLast? = some rootName
  nodup : way.Nodup
  mem : IsRegular name → ∀ n, n ∈ way ↔ n = name ∨ n = rootName ∨
    (∃ s ∈ setups, loggerName s.name = n) ∧ n ≠ "" ∧ n.toList ++ ['.'] <+: name.toList

theorem isWay_wayOf (h : AreSetUp setups l) (r : Record) :
    IsWay setups (loggerName r.logger) (l.wayOf r) where
  first := head?_wayToRoot _ _
  last := getLast?_wayToRoot _ _
  nodup := nodup_wayToRoot _ _
  mem hregular n := by
    rw [wayOf, mem_wayToRoot_iff hregular, mem_names_touch, h.names]
    tauto

theorem log_of_not_letsThrough (h : l.letsThrough r = false) :
    l.log clock r = { logging := l.touch (loggerName r.logger), result := .ok false } := by
  rw [log, ← letsThrough, h]
  rfl

/-- A record that is let through is shown by the handlers along its way. -/
theorem log_of_letsThrough (clock : Clock) (h : l.letsThrough r = true)
    (hkeys : ∀ key ∈ r.extra.names, key ∉ reservedKeys)
    (htaken : ∃ n ∈ l.wayOf r, (l.get n).handlers ≠ []) :
    (l.log clock r).result = .ok true ∧ (l.log clock r).shown =
      (handleAlong clock r (l.wayOf r) (l.touch (loggerName r.logger))).2 := by
  have hempty : ((l.wayOf r).all fun n ↦
      ((l.touch (loggerName r.logger)).get n).handlers.isEmpty) = false := by
    obtain ⟨n, hn, hne⟩ := htaken
    rw [List.all_eq_false]
    exact ⟨n, hn, by simpa using hne⟩
  have hhandle : (l.touch (loggerName r.logger)).handle clock (loggerName r.logger) r =
      handleAlong clock r (l.wayOf r) (l.touch (loggerName r.logger)) := by
    rw [handle]
    show (if (l.wayOf r).all _ then _ else _) = _
    rw [hempty]
    rfl
  rw [log, ← letsThrough, h, check_eq_ok hkeys, ← hhandle]
  exact ⟨rfl, rfl⟩

/-- Whether a record leaves no trace: nothing is shown, and the disk and all loggers are as before. -/
structure IsSilent (l : Logging) (o : Outcome Bool) : Prop where
  result : o.result = .ok false
  shown : o.shown = ""
  disk : o.logging.disk = l.disk
  loggers : ∀ n, o.logging.get n = l.get n

/-- Whether a record is shown in one line for each of some setups. -/
structure IsShownFor (clock : Clock) (r : Record) (setups : List Setup) (o : Outcome Bool) : Prop where
  result : o.result = .ok true
  shown : ∃ line, WrittenAs r line ∧ (∀ now service, Json.IsPlainLine (line now service)) ∧
    o.shown = String.join (setups.map fun s ↦
      line (consoleTime clock s) (firstSegment s.name) ++ "\n")

/-- After setups that succeed each logger has the handlers of the last setup for it. A record that its
logger lets through, with a handler on its way to the root, is shown in one line for each logger on that
way whose last setup asks for the console, if it has no field with a reserved name and its message and
arguments go together. A record that its logger does not let through leaves no trace. -/
theorem log_after_setups (d : Disk) (clock : Clock)
    (h : setupAll { disk := d } setups = .ok l) :
    AreSetUp setups l ∧ ∀ r : Record,
      IsWay setups (loggerName r.logger) (l.wayOf r) ∧
      (l.letsThrough r = false → IsSilent l (l.log clock r)) ∧
      (l.letsThrough r = true → (∀ key ∈ r.extra.names, key ∉ reservedKeys) →
        (∃ parts, r.messageParts = .ok parts) → (∃ n ∈ l.wayOf r, (l.get n).handlers ≠ []) →
        IsShownFor clock r (consoleSetups setups (l.wayOf r)) (l.log clock r)) := by
  have hsetUp := areSetUp_of_setupAll h
  have hway := isWay_wayOf hsetUp
  refine ⟨hsetUp, fun r ↦ ⟨hway r, fun hlevel ↦ ?_, ?_⟩⟩
  · rw [log_of_not_letsThrough hlevel]
    exact ⟨rfl, rfl, rfl, fun n ↦ get_touch l _ n⟩
  · rintro hlevel hkeys ⟨parts, hparts⟩ htaken
    obtain ⟨line, hwritten, hplain⟩ := exists_writtenAs hparts
    obtain ⟨hresult, hshown⟩ := log_of_letsThrough clock hlevel hkeys htaken
    have htouch : shownAt clock line (l.touch (loggerName r.logger)) = shownAt clock line l := by
      funext n
      rw [shownAt, get_touch, shownAt]
    refine ⟨hresult, line, hwritten, hplain, ?_⟩
    calc (l.log clock r).shown
        = (handleAlong clock r (l.wayOf r) (l.touch (loggerName r.logger))).2 := hshown
      _ = String.join ((l.wayOf r).map (shownAt clock line (l.touch (loggerName r.logger)))) :=
          handleAlong_shown hwritten clock (hway r).nodup _
      _ = String.join ((l.wayOf r).map (shownAt clock line l)) := by rw [htouch]
      _ = _ := join_shownAt hsetUp (l.wayOf r)

/-- Setups of a logger, of the one above it and of the root, some of which are replaced. -/
def nestedSetups : List Setup :=
  [{ name := "vc.cli" }, { name := "", level := "error" }, { name := "vc" },
    { name := "vc.cli", level := "notset", logFile := some "log/cli.jsonl" },
    { name := "vc", level := "debug", console := false }]

def nestedLogging : Logging where
  loggers := [
    ("vc.cli", ⟨0, [.console "vc", .file "vc" ⟨["log", "cli.jsonl"], 10485760, 5, some 0⟩]⟩),
    ("root", ⟨40, [.console ""]⟩), ("vc", ⟨10, []⟩)]
  disk := ⟨[(["log", "cli.jsonl"], .file 0), (["log"], .directory)], [""]⟩

/-- A record of a level to come from the command line. -/
def answered (level : ℤ) : Record where
  logger := "vc.cli"
  level := level
  message := .text "answered %s"
  arguments := [.int 7]
  path := "src/cli.py"
  line := 7
  function := "epoch"

/-- The record is shown for its own logger and for the root, but not for the logger between them, whose
console handler a later setup has taken away. -/
theorem log_after_setups_nested :
    setupAll {} nestedSetups = .ok nestedLogging ∧
    IsSilent nestedLogging (nestedLogging.log Instant.start (answered 5)) ∧
    ∃ line, WrittenAs (answered 10) line ∧
      (nestedLogging.log Instant.start (answered 10)).shown =
        line Instant.start "vc" ++ "\n" ++ (line Instant.start "" ++ "\n") := by
  have hsetups : setupAll {} nestedSetups = .ok nestedLogging := by decide +kernel
  have hlog := (log_after_setups {} Instant.start hsetups).2
  have hsilent := (hlog (answered 5)).2.1 (by decide +kernel)
  have hconsoles : consoleSetups nestedSetups (nestedLogging.wayOf (answered 10)) =
      [{ name := "vc.cli", level := "notset", logFile := some "log/cli.jsonl" },
        { name := "", level := "error" }] := by
    decide +kernel
  obtain ⟨line, hline, -, hshown⟩ := ((hlog (answered 10)).2.2 (by decide +kernel) nofun ⟨_, rfl⟩
    ⟨"vc.cli", by decide +kernel, by decide +kernel⟩).shown
  refine ⟨hsetups, hsilent, line, hline, ?_⟩
  have hcli : firstSegment "vc.cli" = "vc" := by decide +kernel
  have hroot : firstSegment "" = "" := rfl
  have htime (s : Setup) : consoleTime Instant.start s = Instant.start := rfl
  rw [hshown, hconsoles]
  simp [hcli, hroot, htime]

/-- A setup of a logger that shows what it logs. -/
def shownSetup : Setup := { name := "vc_test" }

/-- A record with a field under the name of one of its own. -/
def reservedField : Record where
  logger := "vc_test"
  level := 20
  message := .text "bad"
  path := "mod.py"
  line := 1
  function := "fn"
  extra := [("name", .text "x")]

/-- A record whose message wants a number and gets a text. -/
def misfilled : Record :=
  { reservedField with message := .text "%d", arguments := [.text "x"], extra := [] }

/-- A logger that shows what it logs lets these records through, but shows no line of them. -/
theorem not_shown_after_setup : ∃ l, setupAll {} [shownSetup] = .ok l ∧
    ∀ r ∈ [reservedField, misfilled], l.letsThrough r = true ∧
      consoleSetups [shownSetup] (l.wayOf r) = [shownSetup] ∧ (l.log Instant.start r).shown = "" := by
  refine ⟨⟨[("vc_test", ⟨20, [.console "vc_test"]⟩)], {}⟩, by decide +kernel, ?_⟩
  simp only [List.forall_mem_cons]
  exact ⟨by decide +kernel, by decide +kernel, nofun⟩

end ValidatorReader.Log.Logging
