import ValidatorReader.Proofs.Log.Rotation

/-!
# A log that is opened

To open a log makes the directories on the way to it that are missing, but no other files than the log
itself. If the text of its path does not lead upwards these directories all lie above the log, so that in
a directory that is empty nothing stands under the names of the log and its backups.
-/

namespace ValidatorReader.Log

namespace Disk

variable {d d' : Disk} {p q : Path} {parts above : List String} {name file : String} {number : ℕ}

/-! ## Directories on the way -/

/-- Making a directory makes no file. -/
theorem entry?_of_makeDirectory (h : d.makeDirectory above name = .ok d')
    (hfile : d'.entry? q = some (.file number)) : d.entry? q = some (.file number) := by
  have hnamed := isNamed_of_file hfile
  obtain ⟨way, -, rfl | ⟨-, rfl⟩⟩ := makeDirectory_cases h
  · exact hfile
  · rw [entry?_of_isNamed hnamed, List.lookup_cons] at hfile
    rw [entry?_of_isNamed hnamed]
    split at hfile
    · cases hfile
    · exact hfile

theorem entry?_of_makeDirectories
    (hfile : Disk.entry? (d.makeDirectories parts).1 q = some (.file number)) :
    d.entry? q = some (.file number) :=
  rel_makeDirectories
    (R := fun d d' ↦ ∀ q number, d'.entry? q = some (.file number) → d.entry? q = some (.file number))
    (fun _ _ _ h ↦ h) (fun h h' q number hfile ↦ h q number (h' q number hfile))
    (fun h _ _ hfile ↦ entry?_of_makeDirectory h hfile) d parts q number hfile

/-- Following parts goes no deeper than there are parts. -/
theorem length_le_of_follow {way : Path} (h : d.follow p parts = .ok way) :
    way.length ≤ p.length + parts.length := by
  induction parts generalizing p with
  | nil =>
    rw [← Except.ok.inj h]
    exact Nat.le_add_right _ _
  | cons part parts ih =>
    have hstep := length_step_le p part
    rw [follow] at h
    split at h
    · have hrest := ih h
      rw [List.length_cons]
      omega
    · cases h
    · cases h

/-- A directory that is made changes nothing below itself. -/
theorem entry?_makeDirectory_of_length (h : d.makeDirectory above name = .ok d')
    (hq : above.length + 1 < q.length) : d'.entry? q = d.entry? q := by
  obtain ⟨way, hway, rfl | ⟨-, rfl⟩⟩ := makeDirectory_cases h
  · rfl
  · have hne : q ≠ way.step name := by
      rintro rfl
      have hstep := length_step_le way name
      have hlength := length_le_of_follow hway
      rw [List.length_nil] at hlength
      omega
    apply entry?_congr
    rw [List.lookup_cons, beq_false_of_ne hne]

/-- The directories that are made are not deeper than their way has parts. -/
theorem entry?_makeDirectories_of_length (hq : parts.length < q.length) :
    entry? (d.makeDirectories parts).1 q = d.entry? q := by
  have hmake {above : List String} {name : String} {d d' : Disk}
      (hq : (name :: above).length < q.length)
      (h : d.makeDirectory above.reverse name = .ok d') : d'.entry? q = d.entry? q := by
    apply entry?_makeDirectory_of_length h
    rwa [List.length_reverse]
  fun_induction makeDirectories d parts with
  | case1 => rfl
  | case2 _ _ _ hmade => exact hmake hq hmade
  | case3 _ _ _ _ _ _ habove ih =>
    rw [habove] at ih
    exact ih (Nat.lt_of_succ_lt hq)
  | case4 _ _ _ _ _ _ hmade habove ih =>
    rw [habove] at ih
    exact (hmake hq hmade).trans (ih (Nat.lt_of_succ_lt hq))
  | case5 _ _ _ _ _ _ _ habove ih =>
    rw [habove] at ih
    exact ih (Nat.lt_of_succ_lt hq)
  | case6 => rfl

/-! ## A new log -/

/-- Whether a log is a new file, with nothing under the names of its backups, as one that is opened in an
empty directory. -/
structure IsNewLog (before after : Disk) (p : Path) : Prop where
  new : before.entry? p = none
  free : ∀ i, after.entry? (backupPath p (i + 1)) = none

end Disk

namespace Logging

open Disk

variable {d d' : Disk} {s : Setup} {f : RotatingFile} {file : String}

/-- A new log is a new file behind the directories that are made. -/
theorem openLog_of_new (h : openLog d s file = (d', .ok f))
    (hnew : d.entry? (Path.ofText file) = none) :
    ∃ made, made = (d.makeDirectories (Path.partsOfText file).dropLast.reverse).1 ∧
      made.entry? (Path.ofText file) = none ∧
      (∃ way, made.follow [] (Path.ofText file).dropLast = .ok way) ∧
      d' = made.withNewFile (Path.ofText file) ∧
      f = { path := Path.ofText file, maxBytes := s.maxBytes, backupCount := s.backupCount,
            number := some d.contents.length } := by
  obtain ⟨number, hopened, hfile⟩ := openLog_cases h
  obtain ⟨hway, ⟨hold, -⟩ | ⟨hfree, hnumber, hdisk⟩⟩ := openFile_cases hopened
  · have hbefore := entry?_of_makeDirectories hold
    rw [hnew] at hbefore
    cases hbefore
  · rw [contents_makeDirectories] at hnumber
    exact ⟨_, rfl, hfree, hway, hdisk, hnumber ▸ hfile⟩

/-- A log that is opened as a new file is empty and has no backups. -/
theorem hasLog_of_openLog (h : openLog d s file = (d', .ok f))
    (hnew : IsNewLog d d' (Path.ofText file)) :
    d'.HasLog (Path.ofText file) [d.contents.length] ∧ d'.contents = d.contents ++ [""] := by
  have hcontents := contents_makeDirectories d (Path.partsOfText file).dropLast.reverse
  obtain ⟨made, hmade, hfree, hway, rfl, -⟩ := openLog_of_new h hnew.new
  rw [← hmade] at hcontents
  have hself := entry?_withNewFile_self hfree
  rw [hcontents] at hself
  refine ⟨⟨?_, ?_, ?_, List.nodup_singleton _⟩, ?_⟩
  · rwa [follow_withNewFile made (isNamed_of_file hself).ne_nil]
  · intro i
    cases i with
    | zero => exact hself
    | succ i => exact hnew.free i
  · intro number hnumber
    rw [List.mem_singleton.1 hnumber, withNewFile, hcontents, List.length_append]
    exact Nat.lt_succ_self _
  · rw [withNewFile, hcontents]

/-- A new log has no lines yet. -/
theorem holds_of_openLog (h : openLog d s file = (d', .ok f)) (hnew : IsNewLog d d' (Path.ofText file)) :
    f.Holds d' [[]] [d.contents.length] := by
  obtain ⟨hlog, hcontents⟩ := hasLog_of_openLog h hnew
  obtain ⟨-, -, -, -, -, rfl⟩ := openLog_of_new h hnew.new
  refine ⟨hlog, rfl, ?_⟩
  rw [List.map_singleton, content_of_new hcontents, List.take_succ_cons, List.take_nil]
  rfl

theorem foldl_step_of_plain {parts : List String} (h : Path.up ∉ parts) (p : Path) :
    parts.foldl Path.step p = p ++ parts := by
  induction parts generalizing p with
  | nil => exact (List.append_nil p).symm
  | cons part parts ih =>
    rw [List.mem_cons, not_or] at h
    rw [List.foldl_cons, ih h.2, Path.step, if_neg (Ne.symm h.1), List.append_assoc]
    rfl

/-- A log in a directory that is empty is new, unless the text of its path leads upwards: then one of
the directories that are made can have the name of a backup. -/
theorem isNewLog_of_empty (h : openLog d s file = (d', .ok f)) (hplain : Path.up ∉ Path.partsOfText file)
    (hempty : ∀ name, d.entry? ((Path.ofText file).dropLast ++ [name]) = none) :
    IsNewLog d d' (Path.ofText file) := by
  have hpath : Path.ofText file = Path.partsOfText file := foldl_step_of_plain hplain []
  obtain ⟨-, number, hentry, -⟩ := openLog_spec h
  have hne := (isNamed_of_file hentry).ne_nil
  obtain ⟨way, name, hconcat⟩ := Path.exists_concat hne
  have hway : (Path.ofText file).dropLast = way := by rw [hconcat, List.dropLast_concat]
  rw [hway] at hempty
  have hnew : d.entry? (Path.ofText file) = none := by
    rw [hconcat]
    exact hempty name
  obtain ⟨made, rfl, -, -, rfl, -⟩ := openLog_of_new h hnew
  refine ⟨hnew, fun i ↦ ?_⟩
  have hother : backupPath (Path.ofText file) (i + 1) ≠ Path.ofText file :=
    (logPath_injective hne).ne (Nat.succ_ne_zero i)
  have hlength : (backupPath (Path.ofText file) (i + 1)).length = (Path.ofText file).length :=
    length_logPath hne (i + 1)
  have hpos := List.length_pos_iff.2 hne
  rw [entry?_withNewFile_of_ne _ hother, entry?_makeDirectories_of_length]
  · rw [hconcat, backupPath_concat]
    exact hempty _
  · rw [hlength, List.length_reverse, List.length_dropLast, ← hpath]
    omega

end Logging

end ValidatorReader.Log
