import ValidatorReader.Proofs.Log.Backups
import ValidatorReader.Proofs.Log.LineLength
import ValidatorReader.Proofs.Text.Quoted

/-!
# Lines in the files of a log

A line goes to the end of a log, or to a new file in its place if, as it is tested, it would make the log
reach its limit. So a log and its backups hold the last ones of the files that the lines have filled one
after the other, and a file can exceed its limit by no more than what a line gains after its test.
-/

namespace ValidatorReader.Log

/-! ## Lines one after the other -/

/-- A line of a log as its size was tested and as it was written, and when. -/
structure LogLine where
  times : Times
  tested : String
  written : String

/-- The text of a file that lines have filled. -/
def textOf (group : List LogLine) : String :=
  String.join (group.map LogLine.written)

/-- How many characters more than in its test the last line of a file can have. -/
def lastGain (group : List LogLine) : ℕ :=
  (group.getLast?.map fun line ↦ line.times.gain).getD 0

variable {limit : ℤ} {line : LogLine} {groups older : List (List LogLine)} {newest : List LogLine}

@[simp] theorem textOf_nil : textOf [] = "" := rfl

@[simp] theorem textOf_singleton (line : LogLine) : textOf [line] = line.written := by
  rw [textOf, List.map_singleton, String.join_cons, String.join_nil, String.append_empty]

theorem textOf_append_singleton (group : List LogLine) (line : LogLine) :
    textOf (group ++ [line]) = textOf group ++ line.written := by
  rw [textOf, List.map_append, String.join_append, ← textOf, ← textOf, textOf_singleton]

/-- The lines of files, from the newest file on, after one more line: it goes to the newest file, or to
another one if, as it was tested, it would make that file reach its limit. -/
def addLine (limit : ℤ) : List (List LogLine) → LogLine → List (List LogLine)
  | [], line => [[line]]
  | newest :: older, line =>
    if limit ≤ (textOf newest).length + line.tested.length then [line] :: newest :: older
    else (newest ++ [line]) :: older

theorem addLine_ne_nil : addLine limit groups line ≠ [] := by
  cases groups with
  | nil => exact List.cons_ne_nil _ _
  | cons newest older =>
    rw [addLine]
    split <;> exact List.cons_ne_nil _ _

/-- A line comes behind all lines that there are, and none of them is moved or lost. -/
theorem flatten_reverse_addLine :
    (addLine limit groups line).reverse.flatten = groups.reverse.flatten ++ [line] := by
  cases groups with
  | nil => rfl
  | cons newest older =>
    rw [addLine]
    split <;> simp

/-- Whether a file is below its limit, but for what its last line gained after its test. -/
def IsShort (limit : ℤ) (group : List LogLine) : Prop :=
  ((textOf group).length : ℤ) < limit + lastGain group

/-- A file stays below the limit, up to what its last line may have gained after the test. -/
theorem isShort_addLine (hgroups : ∀ group ∈ groups, IsShort limit group)
    (hline : (line.written.length : ℤ) < limit)
    (hgain : line.written.length ≤ line.tested.length + line.times.gain) :
    ∀ group ∈ addLine limit groups line, IsShort limit group := by
  have halone : IsShort limit [line] := by
    rw [IsShort, textOf_singleton]
    exact hline.trans_le (Int.le_add_of_nonneg_right (Int.natCast_nonneg _))
  cases groups with
  | nil => exact List.forall_mem_singleton.2 halone
  | cons newest older =>
    rw [List.forall_mem_cons] at hgroups
    rw [addLine]
    split
    case isTrue =>
      exact List.forall_mem_cons.2 ⟨halone, List.forall_mem_cons.2 hgroups⟩
    case isFalse hfits =>
      have hlast : lastGain (newest ++ [line]) = line.times.gain := by
        rw [lastGain, List.getLast?_append_of_ne_nil _ (List.cons_ne_nil _ _)]
        rfl
      refine List.forall_mem_cons.2 ⟨?_, hgroups.2⟩
      rw [IsShort, textOf_append_singleton, String.length_append, hlast]
      push_cast
      omega

theorem flatten_reverse_addLines (lines : List LogLine) (groups : List (List LogLine)) :
    (lines.foldl (addLine limit) groups).reverse.flatten = groups.reverse.flatten ++ lines := by
  induction lines generalizing groups with
  | nil => exact (List.append_nil _).symm
  | cons line lines ih =>
    rw [List.foldl_cons, ih, flatten_reverse_addLine, List.append_assoc, List.singleton_append]

theorem isShort_addLines {lines : List LogLine} (hgroups : ∀ group ∈ groups, IsShort limit group)
    (hlines : ∀ line ∈ lines, (line.written.length : ℤ) < limit)
    (hgains : ∀ line ∈ lines, line.written.length ≤ line.tested.length + line.times.gain) :
    ∀ group ∈ lines.foldl (addLine limit) groups, IsShort limit group := by
  induction lines generalizing groups with
  | nil => exact hgroups
  | cons line lines ih =>
    obtain ⟨hfirst, hrest⟩ := List.forall_mem_cons.1 hlines
    obtain ⟨hgain, hgains⟩ := List.forall_mem_cons.1 hgains
    exact ih (isShort_addLine hgroups hfirst hgain) hrest hgains

/-! ## Texts of numbered files -/

namespace Disk

variable {d d' : Disk} {p : Path} {number : ℕ} {numbers : List ℕ}

theorem entry?_append (d : Disk) (number : ℕ) (text : String) (p : Path) :
    entry? (d.append number text) p = d.entry? p :=
  rfl

/-- Writing to a file leaves all files in their places. -/
theorem HasLog.append (h : d.HasLog p numbers) (number : ℕ) (text : String) :
    (d.append number text).HasLog p numbers where
  way := by
    obtain ⟨way, hway⟩ := h.way
    refine ⟨way, ?_⟩
    rw [← hway]
    exact follow_congr fun q _ ↦ entry?_append d number text q
  entry := h.entry
  bound n hn := by
    rw [Disk.append, List.length_modify]
    exact h.bound n hn
  nodup := h.nodup

theorem map_content_append (hbound : number < d.contents.length) (hnumber : number ∉ numbers)
    (text : String) : (number :: numbers).map (d.append number text).content =
      (d.content number ++ text) :: numbers.map d.content := by
  rw [List.map_cons, content_append_self hbound]
  congr 1
  apply List.map_congr_left
  intro n hn
  apply content_append_of_ne
  rintro rfl
  exact hnumber hn

theorem content_of_lt (hcontents : d'.contents = d.contents ++ [""])
    (hbound : number < d.contents.length) : d'.content number = d.content number := by
  rw [content, content, hcontents, List.getElem?_append_left hbound]

theorem content_of_new (hcontents : d'.contents = d.contents ++ [""]) :
    d'.content d.contents.length = "" := by
  rw [content, hcontents, List.getElem?_append_right le_rfl, Nat.sub_self]
  rfl

end Disk

/-! ## Texts in bytes -/

/-- Whether each character of a text is one byte. -/
def IsAscii (text : String) : Prop :=
  ∀ c ∈ text.toList, c.utf8Size = 1

theorem IsAscii.utf8ByteSize_eq {text : String} (h : IsAscii text) :
    text.utf8ByteSize = text.length := by
  obtain ⟨cs, rfl⟩ : ∃ cs, text = String.ofList cs := ⟨text.toList, String.ofList_toList.symm⟩
  rw [IsAscii, String.toList_ofList] at h
  rw [String.utf8ByteSize_ofList, String.length_ofList]
  induction cs with
  | nil => rfl
  | cons c cs ih =>
    obtain ⟨hfirst, hrest⟩ := List.forall_mem_cons.1 h
    rw [String.utf8Len_cons, ih hrest, hfirst, List.length_cons]

theorem IsAscii.append {s t : String} (hs : IsAscii s) (ht : IsAscii t) : IsAscii (s ++ t) :=
  Text.forall_mem_append hs ht

theorem isAscii_join {texts : List String} (h : ∀ text ∈ texts, IsAscii text) :
    IsAscii (String.join texts) := by
  induction texts with
  | nil => exact nofun
  | cons text texts ih =>
    obtain ⟨hfirst, hrest⟩ := List.forall_mem_cons.1 h
    rw [String.join_cons]
    exact hfirst.append (ih hrest)

/-! ## A line written -/

namespace RotatingFile

variable {f : RotatingFile} {d : Disk} {number : ℕ} {numbers : List ℕ}

/-- Whether a file that is written to and its backups, with their numbers from the newest on, are the
newest ones of the files that lines have filled. -/
structure Holds (f : RotatingFile) (d : Disk) (groups : List (List LogLine)) (numbers : List ℕ) :
    Prop where
  log : d.HasLog f.path numbers
  opened : f.number = numbers.head?
  texts : numbers.map d.content = (groups.take (f.backupCount.toNat + 1)).map textOf

theorem Holds.length_eq (h : f.Holds d groups numbers) :
    numbers.length = min (f.backupCount.toNat + 1) groups.length := by
  have hlength := congrArg List.length h.texts
  rwa [List.length_map, List.length_map, List.length_take] at hlength

theorem Holds.exists_cons (h : f.Holds d groups numbers) (hgroups : groups ≠ []) :
    ∃ number older, numbers = number :: older := by
  have hlength := h.length_eq
  have hpos := List.length_pos_iff.2 hgroups
  exact List.exists_cons_of_length_pos (by omega)

theorem isFull_iff (hlog : d.entry? f.path ≠ some .directory) (hlimit : 0 < f.maxBytes)
    (tested : String) :
    f.isFull d number tested = true ↔ f.maxBytes ≤ (d.content number).length + tested.length := by
  rw [isFull, decide_eq_true hlog, decide_eq_true hlimit]
  simp

/-- What writing a line leaves: the same file but for its number, and the files with one more line. A
new file is begun exactly if the path of the log leads elsewhere than before. -/
structure IsWritten (f : RotatingFile) (d : Disk) (line : LogLine) (groups : List (List LogLine))
    (f' : RotatingFile) (d' : Disk) : Prop where
  same : ∃ number, f' = { f with number }
  holds : ∃ numbers, f'.Holds d' (addLine f.maxBytes groups line) numbers
  begun : (addLine f.maxBytes groups line).length =
    groups.length + if d'.entry? f.path = d.entry? f.path then 0 else 1

/-- A line that fits is written to the newest file. -/
theorem Holds.append (h : f.Holds d (newest :: older) (number :: numbers))
    (hfits : ¬ f.maxBytes ≤ (d.content number).length + line.tested.length) :
    IsWritten f d line (newest :: older) { f with number := some number }
      (d.append number line.written) := by
  have htexts := h.texts
  rw [List.take_succ_cons, List.map_cons, List.map_cons, List.cons.injEq] at htexts
  have hadd : addLine f.maxBytes (newest :: older) line = (newest ++ [line]) :: older := by
    rw [addLine, ← htexts.1, if_neg hfits]
  refine ⟨⟨_, rfl⟩, ⟨number :: numbers, ?_, rfl, ?_⟩, ?_⟩
  · exact h.log.append number line.written
  · have hbound := h.log.bound number List.mem_cons_self
    rw [hadd, Disk.map_content_append hbound (List.nodup_cons.1 h.log.nodup).1, List.take_succ_cons,
      List.map_cons, ← htexts.2, htexts.1, textOf_append_singleton]
  · rw [hadd, Disk.entry?_append, if_pos rfl]
    rfl

/-- A line that does not fit begins a new file, and the oldest one is lost if all places are
taken. -/
theorem Holds.rotate (h : f.Holds d (newest :: older) (number :: numbers))
    (hcount : 0 < f.backupCount)
    (hfull : f.maxBytes ≤ (d.content number).length + line.tested.length) :
    ∃ d' new, f.rotate d = some (d', new) ∧ IsWritten f d line (newest :: older)
      { f with number := some new } (d'.append new line.written) := by
  have hlength := h.length_eq
  rw [List.length_cons] at hlength
  obtain ⟨d', hrotate, hlog, hcontents⟩ := h.log.rotate hcount (by omega)
  have hnew : d.contents.length ∉ (number :: numbers).take f.backupCount.toNat :=
    (List.nodup_cons.1 hlog.nodup).1
  have hadd : addLine f.maxBytes (newest :: older) line = [line] :: newest :: older := by
    have htexts := h.texts
    rw [List.take_succ_cons, List.map_cons, List.map_cons, List.cons.injEq] at htexts
    rw [addLine, ← htexts.1, if_pos hfull]
  -- The texts of all files stay, so those that are kept are found under their numbers.
  have hkept : ((number :: numbers).take f.backupCount.toNat).map d'.content =
      ((newest :: older).take f.backupCount.toNat).map textOf := by
    calc ((number :: numbers).take f.backupCount.toNat).map d'.content
        = ((number :: numbers).take f.backupCount.toNat).map d.content := by
          apply List.map_congr_left
          intro n hn
          exact Disk.content_of_lt hcontents (h.log.bound n (List.mem_of_mem_take hn))
      _ = ((newest :: older).take f.backupCount.toNat).map textOf := by
          rw [List.map_take, h.texts, ← List.map_take, List.take_take,
            min_eq_left (Nat.le_succ _)]
  refine ⟨d', _, hrotate, ⟨_, rfl⟩, ⟨_, hlog.append _ line.written, rfl, ?_⟩, ?_⟩
  · rw [hadd, Disk.map_content_append (hlog.bound _ List.mem_cons_self) hnew, hkept,
      Disk.content_of_new hcontents, List.take_succ_cons, List.map_cons, textOf_singleton,
      String.empty_append]
  · have hentry : d'.entry? f.path = some (.file d.contents.length) := hlog.entry 0
    have hold : d.entry? f.path = some (.file number) := h.log.entry 0
    have hne : d.contents.length ≠ number := (h.log.bound number List.mem_cons_self).ne'
    rw [hadd, Disk.entry?_append, hentry, hold, if_neg (by simpa using hne)]
    rfl

/-- A line is written to the log, or to a new file in its place after a rotation. -/
theorem Holds.write (h : f.Holds d groups numbers) (hgroups : groups ≠ []) (hcount : 0 < f.backupCount)
    (hlimit : 0 < f.maxBytes) (line : LogLine) :
    IsWritten f d line groups (f.write d line.tested line.written).1
      (f.write d line.tested line.written).2 := by
  obtain ⟨number, numbers, rfl⟩ := h.exists_cons hgroups
  obtain ⟨newest, older, rfl⟩ := List.exists_cons_of_ne_nil hgroups
  have hreach : f.reach d = some (d, number) := by
    rw [reach, h.opened]
    rfl
  have hfile : d.entry? f.path ≠ some .directory := by
    have hentry : d.entry? f.path = some (.file number) := h.log.entry 0
    rw [hentry]
    exact nofun
  rw [write, hreach]
  dsimp only
  split
  case isTrue hfull =>
    obtain ⟨d', new, hrotate, hwritten⟩ := h.rotate hcount ((isFull_iff hfile hlimit _).1 hfull)
    rwa [hrotate]
  case isFalse hfits => exact h.append (mt (isFull_iff hfile hlimit _).2 hfits)

end RotatingFile

/-! ## What is kept -/

def Disk.textAt? (d : Disk) (p : Path) : Option String :=
  match d.entry? p with
  | some (.file number) => some (d.content number)
  | _ => none

/-- Whether a log and its backups keep the latest of some lines after a number of rotations. The lines
have filled files one after the other. Those that are lost are the first ones, and the others are the
backups, from the oldest one on, and the log; there are no further backups. Each file is below the limit,
but for what its last line gained after its test. -/
structure KeepsLatest (d : Disk) (p : Path) (limit : ℤ) (backups : ℕ) (lines : List LogLine)
    (rotations : ℕ) (lost kept : List (List LogLine)) : Prop where
  lines_eq : lines = (lost ++ kept).flatten
  length_lost : lost.length = rotations - backups
  length_kept : kept.length = min rotations backups + 1
  texts : ∀ i, d.textAt? (logPath p i) = kept.reverse[i]?.map textOf
  short : ∀ group ∈ kept, ((textOf group).utf8ByteSize : ℤ) < limit + lastGain group

namespace KeepsLatest

variable {d : Disk} {p : Path} {backups rotations : ℕ} {lines : List LogLine}
  {lost kept : List (List LogLine)}

theorem length_kept_le (h : KeepsLatest d p limit backups lines rotations lost kept) :
    kept.length ≤ backups + 1 := by
  rw [h.length_kept]
  exact Nat.succ_le_succ (min_le_right _ _)

theorem suffix (h : KeepsLatest d p limit backups lines rotations lost kept) :
    kept.flatten <:+ lines := by
  rw [h.lines_eq, List.flatten_append]
  exact List.suffix_append _ _

theorem flatten_kept (h : KeepsLatest d p limit backups lines rotations lost kept)
    (hfew : rotations ≤ backups) : kept.flatten = lines := by
  have hnone : lost = [] := by
    rw [← List.length_eq_zero_iff, h.length_lost]
    exact Nat.sub_eq_zero_of_le hfew
  rw [h.lines_eq, hnone, List.nil_append]

end KeepsLatest

namespace RotatingFile

variable {f : RotatingFile} {d : Disk} {numbers : List ℕ}

theorem Holds.textAt?_eq (h : f.Holds d groups numbers) (i : ℕ) : d.textAt? (logPath f.path i) =
    (groups.take (f.backupCount.toNat + 1))[i]?.map textOf := by
  have htexts := congrArg (·[i]?) h.texts
  simp only [List.getElem?_map] at htexts
  rw [← htexts, Disk.textAt?, h.log.entry]
  cases numbers[i]? <;> rfl

/-- What the files hold is the latest of the lines, in order. -/
theorem Holds.keepsLatest {lines : List LogLine} {rotations : ℕ}
    (h : f.Holds d groups numbers) (hlines : groups.reverse.flatten = lines)
    (hlength : groups.length = rotations + 1) (hshort : ∀ group ∈ groups, IsShort f.maxBytes group)
    (hascii : ∀ line ∈ lines, IsAscii line.written) :
    ∃ lost kept, KeepsLatest d f.path f.maxBytes f.backupCount.toNat lines rotations lost kept := by
  refine ⟨(groups.drop (f.backupCount.toNat + 1)).reverse,
    (groups.take (f.backupCount.toNat + 1)).reverse, ?lines, ?lost, ?kept, ?texts, ?short⟩
  case lines => rw [← List.reverse_append, List.take_append_drop, hlines]
  case lost =>
    rw [List.length_reverse, List.length_drop]
    omega
  case kept =>
    rw [List.length_reverse, List.length_take]
    omega
  case texts =>
    intro i
    rw [List.reverse_reverse, h.textAt?_eq]
  case short =>
    intro group hgroup
    have hmem := List.mem_of_mem_take (List.mem_reverse.1 hgroup)
    have hgroupAscii : ∀ text ∈ group.map LogLine.written, IsAscii text := by
      rw [List.forall_mem_map]
      intro line hline
      apply hascii
      rw [← hlines]
      exact List.mem_flatten.2 ⟨group, List.mem_reverse.2 hmem, hline⟩
    rw [textOf, (isAscii_join hgroupAscii).utf8ByteSize_eq]
    exact hshort group hmem

end RotatingFile

end ValidatorReader.Log
