import ValidatorReader.Proofs.Log.Opening
import ValidatorReader.Proofs.Log.Shown

/-!
# What a log keeps

After a setup with a log file in an empty directory the records of its logger are written to the log line
by line. Of the files that the lines fill one after the other the newest ones are kept, as many as there
are backups and the log itself, so that nothing but the oldest lines is ever lost.
-/

namespace ValidatorReader.Log

namespace Logging

variable {l l' : Logging} {s : Setup} {level : ℤ} {f f' : RotatingFile} {r : Record} {clock : Clock}
  {name : String} {records : List (Clock × Record)}

/-! ## A logger that is set up alone -/

/-- Whether the logger of a setup is the only one with a level or handlers of its own, but for the level
of the root, and writes to a file. -/
structure LogsTo (l : Logging) (s : Setup) (level : ℤ) (f : RotatingFile) : Prop where
  logger : l.get (loggerName s.name) =
    ⟨level, consoleHandlers s ++ [.file (firstSegment s.name) f]⟩
  others : ∀ n, n ≠ loggerName s.name → l.get n = ({} : Logging).get n
  names : ∀ n ∈ l.names, n = loggerName s.name ∨ n = rootName

namespace LogsTo

theorem touch (h : LogsTo l s level f) (hname : name = loggerName s.name ∨ name = rootName) :
    LogsTo (l.touch name) s level f where
  logger := (get_touch l name _).trans h.logger
  others n hn := (get_touch l name n).trans (h.others n hn)
  names n hn := by
    rcases mem_names_touch.1 hn with rfl | hn
    · exact hname
    · exact h.names n hn

theorem put (h : LogsTo l s level f) (d : Disk) (f' : RotatingFile) :
    LogsTo (({ l with disk := d } : Logging).put (loggerName s.name)
      ⟨level, consoleHandlers s ++ [.file (firstSegment s.name) f']⟩) s level f' where
  logger := get_put_self _ _ _
  others n hn := (get_put_of_ne _ _ hn).trans (h.others n hn)
  names n hn := by
    rcases mem_names_put.1 hn with rfl | hn
    · exact .inl rfl
    · exact h.names n hn

theorem handlers_of_ne (h : LogsTo l s level f) (hname : name ≠ loggerName s.name) :
    (l.get name).handlers = [] := by
  rw [h.others name hname]
  rfl

/-- Which records are let through does not depend on where they are written. -/
theorem letsThrough_eq (h : LogsTo l s level f) (h' : LogsTo l' s level f')
    (hname : loggerName r.logger = loggerName s.name) : l.letsThrough r = l'.letsThrough r := by
  have hlevel (n : String) : ((l.touch (loggerName s.name)).get n).level =
      ((l'.touch (loggerName s.name)).get n).level := by
    rw [get_touch, get_touch]
    by_cases hn : n = loggerName s.name
    · rw [hn, h.logger, h'.logger]
    · rw [h.others n hn, h'.others n hn]
  have hway := wayToRoot_of_names (h.touch (.inl rfl)).names
  have hway' := wayToRoot_of_names (h'.touch (.inl rfl)).names
  rw [letsThrough, letsThrough, hname, isEnabled, isEnabled, effectiveLevel, effectiveLevel, hway, hway']
  simp only [hlevel]

end LogsTo

/-! ## Lines of records -/

/-- When the file handler of a setup tests a line and writes it. -/
def fileTimes (clock : Clock) (s : Setup) : Times :=
  clock.times (loggerName s.name) (consoleHandlers s).length

/-- The line, with its line feed, that is made of a record for its test and for its writing: none if its
message and arguments do not go together. -/
def line? (service : String) (times : Times) (r : Record) : Option LogLine :=
  match r.render service times.tested, r.render service times.written with
  | .ok tested, .ok written => some { times, tested := tested ++ "\n", written := written ++ "\n" }
  | _, _ => none

/-- The line that a logger writes of a record: none of one that it does not let through, and none of one
with a reserved name among its fields. -/
def lineOf? (l : Logging) (s : Setup) (e : Clock × Record) : Option LogLine :=
  if l.letsThrough e.2 then e.2.check.toOption.bind (line? (firstSegment s.name) (fileTimes e.1 s))
  else none

def linesOf (l : Logging) (s : Setup) (records : List (Clock × Record)) : List LogLine :=
  records.filterMap (l.lineOf? s)

theorem LogsTo.linesOf_eq (h : LogsTo l s level f) (h' : LogsTo l' s level f')
    (hnames : ∀ e ∈ records, loggerName e.2.logger = loggerName s.name) :
    l.linesOf s records = l'.linesOf s records := by
  apply List.filterMap_congr
  intro e he
  rw [lineOf?, lineOf?, h.letsThrough_eq h' (hnames e he)]

theorem check_of_ok {r' : Record} (h : r.check = .ok r') : r' = r := by
  unfold Record.check at h
  split at h
  · cases h
  · exact (Except.ok.inj h).symm

/-! ## A record written -/

def writeLine? (f : RotatingFile) (d : Disk) : Option LogLine → RotatingFile × Disk
  | none => (f, d)
  | some line => f.write d line.tested line.written

theorem handle_console (service : String) (times : Times) (r : Record) (d : Disk) :
    ∃ shown, Handler.handle (.console service) times r d = (.console service, d, shown) := by
  cases hwritten : r.render service times.written <;> simp [Handler.handle, hwritten]

theorem handle_file (service : String) (times : Times) (r : Record) (f : RotatingFile) (d : Disk) :
    let written := writeLine? f d (line? service times r)
    Handler.handle (.file service f) times r d = (.file service written.1, written.2, "") := by
  cases htested : r.render service times.tested <;> cases hwritten : r.render service times.written <;>
    simp [Handler.handle, line?, htested, hwritten, writeLine?]

/-- Of the handlers of a setup only that of the file changes the disk. -/
theorem handleAll_file (clock : Clock) (r : Record) (s : Setup) (f : RotatingFile) (d : Disk) :
    let written := writeLine? f d (line? (firstSegment s.name) (fileTimes clock s) r)
    ∃ shown, handleAll (clock.times (loggerName s.name)) r
        (consoleHandlers s ++ [.file (firstSegment s.name) f]) d =
      (consoleHandlers s ++ [.file (firstSegment s.name) written.1], written.2, shown) := by
  obtain ⟨shown, hshown⟩ :=
    handle_console (firstSegment s.name) (clock.times (loggerName s.name) 0) r d
  cases hconsole : s.console <;>
    simp [consoleHandlers, hconsole, handleAll, fileTimes, handle_file, hshown]

theorem handleAlong_of_no_handlers (h : (l.get name).handlers = []) (clock : Clock) (r : Record) :
    (handleAlong clock r [name] l).1 = l.touch name := by
  have hlogger : { l.get name with handlers := [] } = l.get name := by rw [← h]
  simp only [handleAlong, h, handleAll, hlogger]
  rfl

/-- A record passes through the one logger that writes, and leaves all others alone. -/
theorem LogsTo.handle (h : LogsTo l s level f) (clock : Clock) (r : Record) :
    let written := writeLine? f l.disk (line? (firstSegment s.name) (fileTimes clock s) r)
    LogsTo (l.handle clock (loggerName s.name) r).1 s level written.1 ∧
      (l.handle clock (loggerName s.name) r).1.disk = written.2 := by
  intro written
  obtain ⟨shown, hhandled⟩ := handleAll_file clock r s f l.disk
  have hput := h.put written.2 written.1
  have hway := wayToRoot_of_names h.names
  -- The logger has a handler for the file, so the last resort does not come in.
  have htaken : ((l.wayToRoot (loggerName s.name)).all fun n ↦ (l.get n).handlers.isEmpty) = false := by
    rw [List.all_eq_false]
    refine ⟨loggerName s.name, List.mem_of_mem_head? (head?_wayToRoot _ _), ?_⟩
    rw [h.logger]
    simp
  rw [Logging.handle, htaken, hway]
  simp only [Bool.false_eq_true, if_false]
  split
  case isTrue hroot =>
    rw [← hroot]
    simp only [handleAlong, h.logger, hhandled]
    exact ⟨hput, rfl⟩
  case isFalse hroot =>
    have hlast := handleAlong_of_no_handlers (hput.handlers_of_ne (Ne.symm hroot)) clock r
    rw [handleAlong]
    simp only [h.logger, hhandled]
    rw [hlast]
    exact ⟨hput.touch (.inr rfl), rfl⟩

/-- A record is logged by writing its line, if it has one. -/
theorem LogsTo.log (h : LogsTo l s level f) (clock : Clock)
    (hname : loggerName r.logger = loggerName s.name) :
    let written := writeLine? f l.disk (l.lineOf? s (clock, r))
    LogsTo (l.log clock r).logging s level written.1 ∧ (l.log clock r).logging.disk = written.2 := by
  have htouch : LogsTo (l.touch (loggerName s.name)) s level f := h.touch (.inl rfl)
  cases hlets : l.letsThrough r with
  | false =>
    rw [log_of_not_letsThrough hlets, lineOf?, hlets, hname]
    exact ⟨htouch, rfl⟩
  | true =>
    rw [lineOf?, hlets, Logging.log, ← letsThrough, hlets]
    cases hcheck : r.check with
    | error e =>
      rw [hname]
      exact ⟨htouch, rfl⟩
    | ok r' =>
      rw [check_of_ok hcheck, hname]
      exact htouch.handle clock r

/-! ## A run of records -/

def logAll (l : Logging) (records : List (Clock × Record)) : Logging :=
  records.foldl (fun l e ↦ (l.log e.1 e.2).logging) l

/-- How often the path of a log comes to lead to another file while records are logged. -/
def rotations (p : Path) : Logging → List (Clock × Record) → ℕ
  | _, [] => 0
  | l, e :: records =>
    let after := (l.log e.1 e.2).logging
    (if after.disk.entry? p = l.disk.entry? p then 0 else 1) + rotations p after records

variable {groups : List (List LogLine)} {numbers : List ℕ}

/-- Records fill files one after the other, the last of which the log and its backups are. -/
theorem LogsTo.logAll (h : LogsTo l s level f) (hholds : f.Holds l.disk groups numbers)
    (hgroups : groups ≠ []) (hcount : 0 < f.backupCount) (hlimit : 0 < f.maxBytes)
    (hnames : ∀ e ∈ records, loggerName e.2.logger = loggerName s.name) :
    let filled := (l.linesOf s records).foldl (addLine f.maxBytes) groups
    (∃ number numbers,
      RotatingFile.Holds { f with number } (l.logAll records).disk filled numbers) ∧
      filled.length = groups.length + rotations f.path l records := by
  induction records generalizing l f groups numbers with
  | nil => exact ⟨⟨f.number, numbers, hholds⟩, rfl⟩
  | cons e records ih =>
    obtain ⟨clock, r⟩ := e
    obtain ⟨hname, hnames⟩ := List.forall_mem_cons.1 hnames
    obtain ⟨hlogs, hdisk⟩ := h.log clock hname
    have hlines := hlogs.linesOf_eq h hnames
    cases hline : l.lineOf? s (clock, r) with
    | none =>
      rw [hline, writeLine?] at hlogs hdisk
      have hsplit : l.linesOf s ((clock, r) :: records) = l.linesOf s records :=
        List.filterMap_cons_none hline
      have hunchanged : f.Holds (l.log clock r).logging.disk groups numbers := by
        rw [hdisk]
        exact hholds
      have hrest := ih hlogs hunchanged hgroups hcount hlimit hnames
      rw [hlines] at hrest
      rw [hsplit, rotations, hdisk, if_pos rfl, Nat.zero_add]
      exact hrest
    | some line =>
      -- Writing changes the number of the file only, so what is known of it holds further on.
      rw [hline, writeLine?] at hlogs hdisk
      have hsplit : l.linesOf s ((clock, r) :: records) = line :: l.linesOf s records :=
        List.filterMap_cons_some hline
      obtain ⟨⟨number, hsame⟩, ⟨numbers, hwritten⟩, hbegun⟩ := hholds.write hgroups hcount hlimit line
      rw [hsame] at hlogs hwritten
      have hrest := ih hlogs (hdisk ▸ hwritten) addLine_ne_nil hcount hlimit hnames
      rw [hlines] at hrest
      rw [hsplit, rotations, hdisk, List.foldl_cons]
      refine ⟨hrest.1, ?_⟩
      rw [hrest.2, hbegun, Nat.add_assoc]

/-! ## After a setup -/

variable {d : Disk} {file : String}

theorem succeeds_of_setupAll_singleton (h : setupAll l [s] = .ok l') : Succeeds l s l' := by
  rw [setupAll, List.foldlM_cons, Attempt.bind_eq_ok_iff] at h
  obtain ⟨after, hafter, hnil⟩ := h
  obtain ⟨logger, hlogger, rfl⟩ := Attempt.map_eq_ok_iff.1 hafter
  rw [← Except.ok.inj hnil]
  exact succeeds_of_setup hlogger

/-- After a setup with a new log the records of its logger go to a file that has no lines yet. -/
theorem logsTo_of_setup (h : setupAll { disk := d } [s] = .ok l) (hfile : s.logFile = some file)
    (hne : file ≠ "") (hnew : Disk.IsNewLog d l.disk (Path.ofText file)) :
    ∃ level f, LogsTo l s level f ∧ f.Holds l.disk [[]] [d.contents.length] ∧
      f.path = Path.ofText file ∧ f.maxBytes = s.maxBytes ∧ f.backupCount = s.backupCount := by
  cases succeeds_of_setupAll_singleton h with
  | plain _ unset =>
    rw [hfile] at unset
    exact (hne unset).elim
  | file _ set _ opened =>
    rw [hfile] at set
    obtain rfl := Option.some.inj set
    have hholds := holds_of_openLog opened hnew
    obtain ⟨-, -, -, -, -, rfl⟩ := openLog_of_new opened hnew.new
    refine ⟨_, _, ⟨get_put_self _ _ _, ?_, ?_⟩, hholds, rfl, rfl, rfl⟩
    · intro n hn
      rw [get_put_of_ne _ _ hn]
      exact get_touch { disk := d } (loggerName s.name) n
    · intro n hn
      rcases mem_names_put.1 hn with rfl | hn
      · exact .inl rfl
      · exact .inl ((mem_names_touch.1 hn).resolve_right List.not_mem_nil)

/-! ## Lines in bytes -/

theorem isAscii_of_isPlainLine {text : String} (h : Json.IsPlainLine text) : IsAscii text := by
  intro c hc
  have hshown := h c hc
  simp only [Json.isShown, Bool.and_eq_true, decide_eq_true_eq] at hshown
  rw [Char.utf8Size_eq_one_iff, UInt32.le_iff_toNat_le]
  exact hshown.2.trans (by decide)

theorem isAscii_of_render {service line : String} {now : Instant}
    (h : r.render service now = .ok line) : IsAscii (line ++ "\n") := by
  obtain ⟨entries, -, rfl⟩ := Attempt.map_eq_ok_iff.1 h
  apply (isAscii_of_isPlainLine (Json.isPlainLine_toJson _)).append
  intro c hc
  rw [List.mem_singleton.1 hc]
  decide

/-- A line that is written is rendered twice, once to test its size and once to write it. -/
theorem line?_eq_some {service : String} {times : Times} {line : LogLine}
    (h : line? service times r = some line) : ∃ tested written,
      r.render service times.tested = .ok tested ∧ r.render service times.written = .ok written ∧
      line = { times, tested := tested ++ "\n", written := written ++ "\n" } := by
  unfold line? at h
  split at h
  case h_1 tested written htested hwritten =>
    exact ⟨tested, written, htested, hwritten, (Option.some.inj h).symm⟩
  case h_2 => cases h

/-- A line that is written is ASCII, and gains no more after its test than the fraction of a second. -/
theorem of_mem_linesOf {line : LogLine} (h : line ∈ l.linesOf s records) :
    IsAscii line.written ∧ line.written.length ≤ line.tested.length + line.times.gain := by
  obtain ⟨e, -, he⟩ := List.mem_filterMap.1 h
  unfold lineOf? at he
  split at he
  · obtain ⟨r, -, hline⟩ := Option.bind_eq_some_iff.1 he
    obtain ⟨tested, written, htested, hwritten, rfl⟩ := line?_eq_some hline
    refine ⟨isAscii_of_render hwritten, ?_⟩
    have hgain := Record.length_written_le htested hwritten
    simp only [String.length_append]
    omega
  · cases he

/-! ## The latest lines -/

/-- After a setup with a log file in an empty directory, with a limit and backups, the lines of the
records that its logger writes fill files one after the other. The log and its backups are the last ones
of these, so that they hold, from the oldest backup to the log, the latest lines in order and as a whole:
all of them as long as there have been no more rotations than there are backups. All files stay below the
limit, but for the fraction of a second that the last line of a file gained if its size was tested on a
whole second. -/
theorem logAll_keepsLatest (records : List (Clock × Record))
    (h : setupAll { disk := d } [s] = .ok l) (hfile : s.logFile = some file) (hne : file ≠ "")
    (hnew : Disk.IsNewLog d l.disk (Path.ofText file)) (hlimit : 0 < s.maxBytes)
    (hcount : 1 ≤ s.backupCount)
    (hnames : ∀ e ∈ records, loggerName e.2.logger = loggerName s.name)
    (hshort : ∀ line ∈ l.linesOf s records, (line.written.utf8ByteSize : ℤ) < s.maxBytes) :
    ∃ lost kept, KeepsLatest (l.logAll records).disk (Path.ofText file) s.maxBytes
        s.backupCount.toNat (l.linesOf s records) (rotations (Path.ofText file) l records) lost kept ∧
      kept.length ≤ s.backupCount.toNat + 1 ∧ kept.flatten <:+ l.linesOf s records ∧
      (rotations (Path.ofText file) l records ≤ s.backupCount.toNat →
        kept.flatten = l.linesOf s records) := by
  obtain ⟨level, f, hlogs, hholds, hpath, hbytes, hbackups⟩ := logsTo_of_setup h hfile hne hnew
  have hascii : ∀ line ∈ l.linesOf s records, IsAscii line.written := fun _ hline ↦
    (of_mem_linesOf hline).1
  have hlength : ∀ line ∈ l.linesOf s records, (line.written.length : ℤ) < f.maxBytes := by
    intro line hline
    rw [← (hascii line hline).utf8ByteSize_eq, hbytes]
    exact hshort line hline
  obtain ⟨⟨number, numbers, hafter⟩, hfilled⟩ :=
    hlogs.logAll hholds (List.cons_ne_nil _ _) (by omega) (by omega) hnames
  have hempty : ∀ group ∈ [([] : List LogLine)], IsShort f.maxBytes group := by
    rw [List.forall_mem_singleton, hbytes]
    simpa [IsShort, lastGain] using hlimit
  have hfiles := isShort_addLines hempty hlength fun _ hline ↦ (of_mem_linesOf hline).2
  obtain ⟨lost, kept, hkeeps⟩ := hafter.keepsLatest (flatten_reverse_addLines _ _)
    (hfilled.trans (Nat.add_comm _ _)) hfiles hascii
  simp only [hpath, hbytes, hbackups] at hkeeps
  exact ⟨lost, kept, hkeeps, hkeeps.length_kept_le, hkeeps.suffix, hkeeps.flatten_kept⟩

/-- A setup of a log that takes one line of a row, with one backup. -/
def rowSetup : Setup where
  name := "vc_test"
  logFile := some "log/rows.json"
  console := false
  maxBytes := 200
  backupCount := 1

def row (level n : ℤ) : Record where
  logger := "vc_test"
  level := level
  message := .text "row %d"
  arguments := [.int n]
  path := "mod.py"
  line := 1
  function := "fn"

/-- Rows, one of which is not let through. -/
def rows : List (Clock × Record) :=
  [(Instant.start, row 20 1), (Instant.start, row 30 2), (Instant.start, row 10 3),
    (Instant.start, row 20 4)]

def rowLogging : Logging where
  loggers := [("vc_test", ⟨20, [.file "vc_test" ⟨["log", "rows.json"], 200, 1, some 0⟩]⟩)]
  disk := ⟨[(["log", "rows.json"], .file 0), (["log"], .directory)], [""]⟩

/-- Each of the three rows that are let through fills a file, and the first one is lost. -/
theorem logAll_keepsLatest_rows : (rowLogging.linesOf rowSetup rows).length = 3 ∧
    rotations ["log", "rows.json"] rowLogging rows = 2 ∧ ∃ lost kept,
    KeepsLatest (rowLogging.logAll rows).disk ["log", "rows.json"] 200 1
      (rowLogging.linesOf rowSetup rows) 2 lost kept ∧ lost.length = 1 ∧ kept.length = 2 := by
  have hsetup : setupAll {} [rowSetup] = .ok rowLogging := by decide +kernel
  have hpath : Path.ofText "log/rows.json" = ["log", "rows.json"] := by decide +kernel
  have hopened : openLog {} rowSetup "log/rows.json" =
      (rowLogging.disk, .ok ⟨["log", "rows.json"], 200, 1, some 0⟩) := by decide +kernel
  have hnew : Disk.IsNewLog {} rowLogging.disk (Path.ofText "log/rows.json") := by
    apply isNewLog_of_empty hopened (by decide +kernel)
    intro name
    rw [hpath]
    simp [Disk.entry?, Path.up]
  have hshort : ∀ line ∈ rowLogging.linesOf rowSetup rows, (line.written.utf8ByteSize : ℤ) < 200 := by
    decide +kernel
  have hrotations : rotations ["log", "rows.json"] rowLogging rows = 2 := by decide +kernel
  obtain ⟨lost, kept, hkeeps, -⟩ := logAll_keepsLatest rows hsetup rfl (by decide)
    hnew (by decide) (by decide) (by decide +kernel) hshort
  rw [hpath, hrotations] at hkeeps
  exact ⟨by decide +kernel, hrotations, lost, kept, hkeeps, hkeeps.length_lost, hkeeps.length_kept⟩

/-- A clock that shows a whole second when the size of a line is tested, and the next microsecond when
the line is written. -/
def leavingSecond : Clock where
  times _ _ := ⟨⟨63839804646000000, by decide⟩, ⟨63839804646000001, by decide⟩⟩

/-- A setup of a log that two rows fit into if the second one has no fraction in its time. -/
def pairSetup : Setup :=
  { rowSetup with maxBytes := 370 }

/-- Two rows, both of which gain a fraction after their test. -/
def pair : List (Clock × Record) :=
  [(leavingSecond, row 20 1), (leavingSecond, row 20 2)]

def pairLogging : Logging where
  loggers := [("vc_test", ⟨20, [.file "vc_test" ⟨["log", "rows.json"], 370, 1, some 0⟩]⟩)]
  disk := ⟨[(["log", "rows.json"], .file 0), (["log"], .directory)], [""]⟩

/-- A log can reach its limit although every line is far below it, since what is tested is not what is
written. -/
theorem not_short_of_leavingSecond : setupAll {} [pairSetup] = .ok pairLogging ∧
    (∀ line ∈ pairLogging.linesOf pairSetup pair,
      line.tested.utf8ByteSize < 370 ∧ line.written.utf8ByteSize < 370) ∧
    ((pairLogging.logAll pair).disk.textAt? ["log", "rows.json"]).map String.utf8ByteSize = some 372 :=
  ⟨by decide +kernel, by decide +kernel, by decide +kernel⟩

end Logging

end ValidatorReader.Log
