import ValidatorReader.Proofs.Attempt
import ValidatorReader.Proofs.Log.Ways

/-!
# Setups of loggers

A setup that succeeds takes the handlers of its logger away and gives it new ones, and adds to the disk
what these need. So after any setups that succeed each logger has the handlers of the last setup for it,
and no others.
-/

namespace ValidatorReader.Log

/-! ## What is on the disk stays -/

namespace Disk

variable {d d' d'' : Disk} {p : Path} {number : ℕ}

/-- Whether all that is found on one disk is found on another one under the same path. -/
def Extends (d d' : Disk) : Prop :=
  ∀ p e, d.entry? p = some e → d'.entry? p = some e

theorem Extends.refl (d : Disk) : d.Extends d :=
  fun _ _ h ↦ h

theorem Extends.trans (h : d.Extends d') (h' : d'.Extends d'') : d.Extends d'' :=
  fun p e hentry ↦ h' p e (h p e hentry)

theorem entry?_cons_self (h : d.entry? p = none) (e : DiskEntry) (contents : List String) :
    entry? { entries := (p, e) :: d.entries, contents } p = some e := by
  rw [ entry?] at h ⊢
  split at h
  case isTrue => cases h
  case isFalse hplain => rw [if_neg hplain, List.lookup_cons_self]

theorem extends_cons (h : d.entry? p = none) (e : DiskEntry) (contents : List String) :
    d.Extends { entries := (p, e) :: d.entries, contents } := by
  intro q found hfound
  have hne : q ≠ p := by
    rintro rfl
    rw [h] at hfound
    cases hfound
  rwa [ entry?, List.lookup_cons, beq_false_of_ne hne]

/-- A directory that is made is there already, or comes onto the disk. -/
theorem makeDirectory_cases {above : List String} {name : String}
    (h : d.makeDirectory above name = .ok d') : ∃ way, d.follow [] above = .ok way ∧
      (d' = d ∨ d.entry? (way.step name) = none ∧
        d' = { d with entries := (way.step name, .directory) :: d.entries }) := by
  unfold makeDirectory at h
  dsimp only at h
  split at h
  · cases h
  · rename_i way hway
    refine ⟨way, hway, ?_⟩
    split at h
    · exact .inl (Except.ok.inj h).symm
    · cases h
    · rename_i hnone
      exact .inr ⟨hnone, (Except.ok.inj h).symm⟩

theorem extends_makeDirectory {above : List String} {name : String}
    (h : d.makeDirectory above name = .ok d') : d.Extends d' := by
  obtain ⟨way, -, rfl | ⟨hnone, rfl⟩⟩ := makeDirectory_cases h
  · exact Extends.refl d'
  · exact extends_cons hnone _ _

/-- What making a directory comes to, making several does, one after the other. -/
theorem rel_makeDirectories {R : Disk → Disk → Prop} (hrefl : ∀ d, R d d)
    (htrans : ∀ {d d' d''}, R d d' → R d' d'' → R d d'')
    (hstep : ∀ {d d' above name}, makeDirectory d above name = .ok d' → R d d') (d : Disk)
    (parts : List String) : R d (d.makeDirectories parts).1 := by
  fun_induction makeDirectories d parts with
  | case1 => exact hrefl _
  | case2 _ _ _ hmade => exact hstep hmade
  | case3 _ _ _ _ _ _ habove ih => rwa [habove] at ih
  | case4 _ _ _ _ _ _ hmade habove ih =>
    rw [habove] at ih
    exact htrans ih (hstep hmade)
  | case5 _ _ _ _ _ _ _ habove ih => rwa [habove] at ih
  | case6 => exact hrefl _

theorem extends_makeDirectories (d : Disk) (parts : List String) :
    d.Extends (d.makeDirectories parts).1 :=
  rel_makeDirectories Extends.refl Extends.trans extends_makeDirectory d parts

def withNewFile (d : Disk) (p : Path) : Disk where
  entries := (p, .file d.contents.length) :: d.entries
  contents := d.contents ++ [""]

theorem entry?_withNewFile_self (hfree : d.entry? p = none) :
    entry? (d.withNewFile p) p = some (.file d.contents.length) :=
  entry?_cons_self hfree _ _

/-- A file that is opened is there already, or is a new one. -/
theorem openFile_cases (h : d.openFile p = .ok (d', number)) :
    (∃ way, d.follow [] p.dropLast = .ok way) ∧
      (d.entry? p = some (.file number) ∧ d' = d ∨
        d.entry? p = none ∧ number = d.contents.length ∧ d' = d.withNewFile p) := by
  unfold openFile at h
  dsimp only at h
  split at h
  · cases h
  · rename_i way hway
    refine ⟨⟨way, hway⟩, ?_⟩
    split at h
    · cases h
    · rename_i hentry
      obtain ⟨rfl, rfl⟩ := Prod.mk.inj (Except.ok.inj h)
      exact .inl ⟨hentry, rfl⟩
    · rename_i hnone
      obtain ⟨rfl, rfl⟩ := Prod.mk.inj (Except.ok.inj h)
      exact .inr ⟨hnone, rfl, rfl⟩

/-- A file that is opened is there under its number, and all that was there stays. -/
theorem openFile_spec (h : d.openFile p = .ok (d', number)) :
    d.Extends d' ∧ d'.entry? p = some (.file number) := by
  obtain ⟨-, ⟨hentry, rfl⟩ | ⟨hnone, rfl, rfl⟩⟩ := openFile_cases h
  · exact ⟨Extends.refl d', hentry⟩
  · exact ⟨extends_cons hnone _ _, entry?_withNewFile_self hnone⟩

end Disk

/-! ## One setup -/

namespace Logging

variable {l l' : Logging} {s : Setup} {setups : List Setup} {logger : Logger}

/-- The console handler of a setup, if it asks for one. -/
def consoleHandlers (s : Setup) : List Handler :=
  if s.console then [.console (firstSegment s.name)] else []

/-- Which handlers for a file a setup leaves: one for a file that is on the disk if the setup names a
file, and else none. -/
inductive FileHandlers (d : Disk) (s : Setup) : List Handler → Prop
  | none (h : s.logFile.getD "" = "") : FileHandlers d s []
  | file {file : String} {number : ℕ} (h : s.logFile = some file) (hne : file ≠ "")
      (hentry : d.entry? (Path.ofText file) = some (.file number)) :
      FileHandlers d s [.file (firstSegment s.name)
        { path := Path.ofText file, maxBytes := s.maxBytes, backupCount := s.backupCount,
          number := some number }]

/-- Whether a logger is as a setup for it leaves it. -/
structure IsSetUp (d : Disk) (s : Setup) (logger : Logger) : Prop where
  level : levelOfSetting s.level = .ok logger.level
  handlers : ∃ files, FileHandlers d s files ∧ logger.handlers = consoleHandlers s ++ files

theorem FileHandlers.mono {d d' : Disk} {handlers : List Handler} (h : FileHandlers d s handlers)
    (hdisk : d.Extends d') : FileHandlers d' s handlers := by
  cases h with
  | none h => exact .none h
  | file h hne hentry => exact .file h hne (hdisk _ _ hentry)

theorem IsSetUp.mono {d d' : Disk} (h : IsSetUp d s logger) (hdisk : d.Extends d') :
    IsSetUp d' s logger := by
  obtain ⟨files, hfiles, hhandlers⟩ := h.handlers
  exact ⟨h.level, files, hfiles.mono hdisk, hhandlers⟩

/-- To open a log makes the directories on the way to it and then opens the file. -/
theorem openLog_cases {d d' : Disk} {file : String} {f : RotatingFile}
    (h : openLog d s file = (d', .ok f)) :
    ∃ number, (d.makeDirectories (Path.partsOfText file).dropLast.reverse).1.openFile
        (Path.ofText file) = .ok (d', number) ∧
      f = { path := Path.ofText file, maxBytes := s.maxBytes, backupCount := s.backupCount,
            number := some number } := by
  unfold openLog at h
  dsimp only at h
  split at h
  · cases h
  · split at h
    · cases h
    · rename_i hopened
      obtain ⟨rfl, hfile⟩ := Prod.mk.inj h
      exact ⟨_, hopened, (Except.ok.inj hfile).symm⟩

/-- A log that is opened is on the disk, and all that was there stays. -/
theorem openLog_spec {d d' : Disk} {file : String} {f : RotatingFile}
    (h : openLog d s file = (d', .ok f)) :
    d.Extends d' ∧ ∃ number, d'.entry? (Path.ofText file) = some (.file number) ∧
      f = { path := Path.ofText file, maxBytes := s.maxBytes, backupCount := s.backupCount,
            number := some number } := by
  have hmade := Disk.extends_makeDirectories d (Path.partsOfText file).dropLast.reverse
  obtain ⟨number, hopened, hfile⟩ := openLog_cases h
  obtain ⟨hextends, hentry⟩ := Disk.openFile_spec hopened
  exact ⟨hmade.trans hextends, number, hentry, hfile⟩

/-- How a setup succeeds, and what it leaves: it names no log file, or its log file is opened. -/
inductive Succeeds (l : Logging) (s : Setup) : Logging → Prop
  | plain {level : ℤ} (good : levelOfSetting s.level = .ok level) (unset : s.logFile.getD "" = "") :
    Succeeds l s ((l.touch (loggerName s.name)).put (loggerName s.name) ⟨level, consoleHandlers s⟩)
  | file {level : ℤ} {file : String} {d : Disk} {f : RotatingFile}
    (good : levelOfSetting s.level = .ok level) (set : s.logFile = some file) (named : file ≠ "")
    (opened : openLog l.disk s file = (d, .ok f)) :
    Succeeds l s (({ l.touch (loggerName s.name) with disk := d } : Logging).put (loggerName s.name)
      ⟨level, consoleHandlers s ++ [.file (firstSegment s.name) f]⟩)

/-- A setup that succeeds does so in one of two ways. -/
theorem succeeds_of_setup (h : (l.setup s).result = .ok logger) :
    Succeeds l s (l.setup s).logging := by
  unfold setup at h ⊢
  cases hlevel : levelOfSetting s.level with
  | error e =>
    rw [hlevel] at h
    cases h
  | ok level =>
    rw [hlevel] at h
    cases hfile : s.logFile with
    | none => exact .plain hlevel (by rw [hfile]; rfl)
    | some file =>
      rw [hfile] at h
      dsimp only at h ⊢
      split at h
      case isTrue hempty =>
        rw [if_pos hempty]
        exact .plain hlevel (by simpa [hfile] using hempty)
      case isFalse hne =>
        rw [if_neg hne]
        cases hopened : openLog (l.touch (loggerName s.name)).disk s file with
        | mk d outcome =>
          rw [hopened] at h
          cases outcome with
          | error e => cases h
          | ok f => exact .file hlevel hfile (by simpa using hne) hopened

/-- What a setup that succeeds changes: its logger, and the disk by what it adds. -/
structure IsSetupStep (l : Logging) (s : Setup) (l' : Logging) : Prop where
  logger : IsSetUp l'.disk s (l'.get (loggerName s.name))
  others : ∀ n, n ≠ loggerName s.name → l'.get n = l.get n
  names : ∀ n, n ∈ l'.names ↔ n = loggerName s.name ∨ n ∈ l.names
  disk : l.disk.Extends l'.disk

theorem isSetupStep_put {d : Disk} (hlogger : IsSetUp d s logger) (hdisk : l.disk.Extends d) :
    IsSetupStep l s (({ l.touch (loggerName s.name) with disk := d } : Logging).put
      (loggerName s.name) logger) where
  logger := by
    rw [get_put_self]
    exact hlogger
  others n hn := (get_put_of_ne _ logger hn).trans (get_touch l (loggerName s.name) n)
  names n := by
    have htouch : n ∈ (l.touch (loggerName s.name)).names ↔
        n = loggerName s.name ∨ n ∈ l.names := mem_names_touch
    refine mem_names_put.trans ((or_congr_right htouch).trans ?_)
    tauto
  disk := hdisk

/-- What a setup does that succeeds, in either way. -/
theorem setup_spec (h : (l.setup s).result = .ok logger) :
    IsSetupStep l s (l.setup s).logging := by
  have hsucceeds := succeeds_of_setup h
  generalize (l.setup s).logging = l' at hsucceeds
  cases hsucceeds with
  | plain good unset =>
    exact isSetupStep_put ⟨good, [], .none unset, (List.append_nil _).symm⟩ (Disk.Extends.refl _)
  | file good set named opened =>
    obtain ⟨hdisk, number, hentry, rfl⟩ := openLog_spec opened
    exact isSetupStep_put ⟨good, _, .file set named hentry, rfl⟩ hdisk

/-! ## A run of setups -/

def setupAll (l : Logging) (setups : List Setup) : Except Error Logging :=
  setups.foldlM (fun l s ↦ (fun _ ↦ (l.setup s).logging) <$> (l.setup s).result) l

/-- The last of the setups for a logger. -/
def lastFor? (setups : List Setup) (name : String) : Option Setup :=
  setups.reverse.find? fun s ↦ loggerName s.name = name

theorem lastFor?_append_singleton (setups : List Setup) (s : Setup) (name : String) :
    lastFor? (setups ++ [s]) name =
      if loggerName s.name = name then some s else lastFor? setups name := by
  rw [lastFor?, List.reverse_append, List.reverse_singleton, List.singleton_append,
    List.find?_cons]
  by_cases h : loggerName s.name = name
  · simp [h]
  · simp [h, lastFor?]

/-- Whether loggers are as setups leave them that begin with no loggers: each is as the last setup for
it leaves it, and one without a setup is as it was at the beginning. -/
structure AreSetUp (setups : List Setup) (l : Logging) : Prop where
  configured : ∀ n s, lastFor? setups n = some s → IsSetUp l.disk s (l.get n)
  others : ∀ n, lastFor? setups n = none → l.get n = ({} : Logging).get n
  names : ∀ n, n ∈ l.names ↔ ∃ s ∈ setups, loggerName s.name = n

/-- One setup more: its logger is as it leaves it, and all others are as before. -/
theorem AreSetUp.snoc (h : AreSetUp setups l) (hstep : IsSetupStep l s l') :
    AreSetUp (setups ++ [s]) l' where
  configured n t ht := by
    rw [lastFor?_append_singleton] at ht
    split at ht
    case isTrue hname =>
      obtain rfl := Option.some.inj ht
      exact hname ▸ hstep.logger
    case isFalse hname =>
      rw [hstep.others n (Ne.symm hname)]
      exact (h.configured n t ht).mono hstep.disk
  others n hn := by
    rw [lastFor?_append_singleton] at hn
    split at hn
    case isTrue => cases hn
    case isFalse hname => rw [hstep.others n (Ne.symm hname), h.others n hn]
  names n := by
    rw [hstep.names, h.names, or_comm, @eq_comm _ n]
    simp only [List.mem_append, List.mem_singleton, or_and_right, exists_or, exists_eq_left]

/-- After setups that succeed each logger is as the last setup for it leaves it. -/
theorem areSetUp_of_setupAll {d : Disk} (h : setupAll { disk := d } setups = .ok l) :
    AreSetUp setups l := by
  -- The last setup comes on top of a run of those before it, which is what `lastFor?` looks at first.
  induction setups using List.reverseRecOn generalizing l with
  | nil =>
    obtain rfl := Except.ok.inj h
    exact ⟨nofun, fun _ _ ↦ rfl, fun _ ↦ ⟨nofun, nofun⟩⟩
  | append_singleton setups s ih =>
    rw [setupAll, List.foldlM_append, Attempt.bind_eq_ok_iff] at h
    obtain ⟨before, hbefore, hlast⟩ := h
    rw [List.foldlM_cons, Attempt.bind_eq_ok_iff] at hlast
    obtain ⟨after, hafter, hnil⟩ := hlast
    obtain ⟨logger, hlogger, rfl⟩ := Attempt.map_eq_ok_iff.1 hafter
    obtain rfl := Except.ok.inj hnil
    exact (ih hbefore).snoc (setup_spec hlogger)

end Logging

end ValidatorReader.Log
