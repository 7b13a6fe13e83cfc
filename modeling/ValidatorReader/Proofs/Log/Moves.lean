import ValidatorReader.Proofs.Log.FailedSetups
import ValidatorReader.Proofs.Number.Decimal

/-!
# Moves of files

A log and its backups stand side by side under names of their own. A file that is moved from one of these
names to another takes the place of what was there, and nothing under other names is touched.
-/

namespace ValidatorReader.Log

variable {d d' : Disk} {p q source target : Path} {i j number : ℕ}

/-! ## Names -/

/-- Whether a path leads to a name in a directory, under which there can be a file. -/
structure Path.IsNamed (p : Path) : Prop where
  inside : ∃ part ∈ p, part ≠ Path.up
  ne_top : p ≠ [Path.top]

theorem Path.IsNamed.ne_nil (h : p.IsNamed) : p ≠ [] := by
  obtain ⟨part, hpart, -⟩ := h.inside
  exact List.ne_nil_of_mem hpart

theorem Path.isNamed_concat {name : String} (way : Path) (hup : name ≠ Path.up)
    (htop : name ≠ Path.top) : Path.IsNamed (way ++ [name]) where
  inside := ⟨name, List.mem_concat_self, hup⟩
  ne_top h := by
    have hlast := congrArg List.getLast? h
    rw [List.getLast?_concat] at hlast
    exact htop (Option.some.inj hlast)

theorem Disk.entry?_of_isNamed (h : p.IsNamed) (d : Disk) : d.entry? p = d.entries.lookup p := by
  have hinside : p.all (· = Path.up) = false := by
    rw [List.all_eq_false]
    simpa using h.inside
  rw [Disk.entry?, hinside, decide_eq_false h.ne_top]
  rfl

theorem Disk.isNamed_of_file (h : d.entry? p = some (.file number)) : p.IsNamed := by
  by_contra hroot
  rw [Disk.entry?, if_pos] at h
  · cases h
  · rw [Bool.or_eq_true, decide_eq_true_eq]
    by_contra hnot
    rw [not_or, Bool.not_eq_true, List.all_eq_false] at hnot
    exact hroot ⟨by simpa using hnot.1, hnot.2⟩

theorem Disk.entry?_congr (h : d'.entries.lookup p = d.entries.lookup p) :
    d'.entry? p = d.entry? p := by
  rw [Disk.entry?, Disk.entry?, h]

theorem Path.exists_concat (hp : p ≠ []) : ∃ way name, p = way ++ [name] :=
  ⟨p.dropLast, p.getLast hp, (List.dropLast_append_getLast hp).symm⟩

theorem backupPath_concat (way : Path) (name : String) (i : ℕ) :
    backupPath (way ++ [name]) i = way ++ [name ++ ("." ++ toString i)] := by
  simp only [backupPath, Path.extend, List.getLast?_concat, List.dropLast_concat]
  rfl

/-- The path of a log, and those of its backups from the newest on. -/
def logPath (p : Path) : ℕ → Path
  | 0 => p
  | i + 1 => backupPath p (i + 1)

/-- The last part of the path of a log or a backup. -/
def logName (name : String) : ℕ → String
  | 0 => name
  | i + 1 => name ++ ("." ++ toString (i + 1))

theorem logPath_concat (way : Path) (name : String) (i : ℕ) :
    logPath (way ++ [name]) i = way ++ [logName name i] := by
  cases i with
  | zero => rfl
  | succ i => exact backupPath_concat way name (i + 1)

/-- Backups with different numbers have different names. -/
theorem logName_injective (name : String) : Function.Injective (logName name) := by
  have hlonger (i : ℕ) : name ≠ name ++ ("." ++ toString (i + 1)) := by
    intro h
    have hlength := congrArg String.length h
    simp at hlength
  intro i j h
  cases i with
  | zero =>
    cases j with
    | zero => rfl
    | succ j => exact (hlonger j h).elim
  | succ i =>
    cases j with
    | zero => exact (hlonger i h.symm).elim
    | succ j =>
      rw [logName, logName, String.append_right_inj, String.append_right_inj] at h
      exact Number.toString_injective h

theorem length_logPath (hp : p ≠ []) (i : ℕ) : (logPath p i).length = p.length := by
  obtain ⟨way, name, rfl⟩ := Path.exists_concat hp
  rw [logPath_concat, List.length_append, List.length_append]
  rfl

theorem logPath_injective (hp : p ≠ []) : Function.Injective (logPath p) := by
  obtain ⟨way, name, rfl⟩ := Path.exists_concat hp
  intro i j h
  rw [logPath_concat, logPath_concat, List.append_right_inj] at h
  exact logName_injective name (List.cons.inj h).1

theorem logPath_prefix_iff (hp : p ≠ []) : logPath p i <+: logPath p j ↔ i = j := by
  constructor
  · intro h
    have hlength : (logPath p i).length = (logPath p j).length := by
      rw [length_logPath hp, length_logPath hp]
    exact logPath_injective hp (h.eq_of_length hlength)
  · rintro rfl
    exact List.prefix_rfl

theorem not_logPath_prefix_of_length (hp : p ≠ []) (h : q.length < p.length) (i : ℕ) :
    ¬ logPath p i <+: q := by
  intro hprefix
  have hlength := hprefix.length_le
  rw [length_logPath hp] at hlength
  omega

theorem exists_digit_logName (name : String) (i : ℕ) :
    ∃ c ∈ (logName name (i + 1)).toList, c.isDigit = true := by
  obtain ⟨c, hc⟩ := List.exists_mem_of_ne_nil _ (Nat.toDigits_ne_nil (b := 10) (n := i + 1))
  refine ⟨c, ?_, Number.isDigit_of_mem_toDigits hc⟩
  rw [logName, String.toList_append, String.toList_append, Number.toList_toString]
  exact List.mem_append_right _ (List.mem_append_right _ hc)

theorem isNamed_logPath (h : p.IsNamed) (i : ℕ) : (logPath p i).IsNamed := by
  cases i with
  | zero => exact h
  | succ i =>
    obtain ⟨way, name, rfl⟩ := Path.exists_concat h.ne_nil
    obtain ⟨c, hc, hdigit⟩ := exists_digit_logName name i
    have hother {part : String} (hpart : part.toList.all (!·.isDigit) = true) :
        logName name (i + 1) ≠ part := by
      rintro rfl
      have hnone := List.all_eq_true.1 hpart c hc
      rw [hdigit] at hnone
      cases hnone
    rw [logPath_concat]
    exact Path.isNamed_concat way (hother (by decide)) (hother (by decide))

/-! ## Single moves -/

namespace Disk

theorem lookup_discard_self (d : Disk) (p : Path) : (d.discard p).entries.lookup p = none := by
  rw [List.lookup_eq_none_iff]
  intro e he
  rw [discard, List.mem_filter, decide_eq_true_eq] at he
  exact bne_iff_ne.2 (Ne.symm he.2)

theorem lookup_filter_of_forall {entries : List (Path × DiskEntry)} {keep : Path × DiskEntry → Bool}
    (h : ∀ e ∈ entries, e.1 = q → keep e = true) :
    (entries.filter keep).lookup q = entries.lookup q := by
  induction entries with
  | nil => rfl
  | cons e entries ih =>
    obtain ⟨hfirst, hrest⟩ := List.forall_mem_cons.1 h
    rw [List.filter_cons]
    by_cases heq : e.1 = q
    · rw [if_pos (hfirst heq), List.lookup_cons, List.lookup_cons, ih hrest]
    · rw [List.lookup_cons, beq_false_of_ne (Ne.symm heq)]
      split
      case isTrue => rw [List.lookup_cons, beq_false_of_ne (Ne.symm heq), ih hrest]
      case isFalse => exact ih hrest

theorem lookup_discard_of_ne (d : Disk) (h : q ≠ p) :
    (d.discard p).entries.lookup q = d.entries.lookup q := by
  apply lookup_filter_of_forall
  rintro e - rfl
  exact decide_eq_true h

/-- Where a path leads after a move. -/
def moved (source target p : Path) : Path :=
  if source.isPrefixOf p then target ++ p.drop source.length else p

theorem entries_rename (d : Disk) (source target : Path) :
    (d.rename source target).entries = d.entries.map fun e ↦ (moved source target e.1, e.2) := by
  rw [rename]
  apply List.map_congr_left
  rintro ⟨p, e⟩ -
  simp only [moved]
  split <;> rfl

theorem moved_eq_self (h : ¬ source <+: p) : moved source target p = p := by
  rw [moved, if_neg (by rwa [List.isPrefixOf_iff_prefix])]

theorem moved_append (rest : Path) : moved source target (source ++ rest) = target ++ rest := by
  rw [moved, if_pos (by rw [List.isPrefixOf_iff_prefix]; exact List.prefix_append _ _),
    List.drop_left]

theorem lookup_map_of_iff {entries : List (Path × DiskEntry)} {f : Path → Path}
    (h : ∀ e ∈ entries, f e.1 = p ↔ e.1 = q) :
    (entries.map fun e ↦ (f e.1, e.2)).lookup p = entries.lookup q := by
  induction entries with
  | nil => rfl
  | cons e entries ih =>
    obtain ⟨hfirst, hrest⟩ := List.forall_mem_cons.1 h
    have hsame : (p == f e.1) = (q == e.1) := by
      rw [Bool.eq_iff_iff, beq_iff_eq, beq_iff_eq, eq_comm, hfirst, eq_comm]
    rw [List.map_cons, List.lookup_cons, List.lookup_cons, hsame, ih hrest]

theorem lookup_rename_target (hfree : d.entries.lookup target = none) :
    (d.rename source target).entries.lookup target = d.entries.lookup source := by
  rw [entries_rename]
  apply lookup_map_of_iff
  intro e he
  by_cases hprefix : source <+: e.1
  · obtain ⟨rest, hrest⟩ := hprefix
    rw [← hrest, moved_append, List.append_right_eq_self, List.append_right_eq_self]
  · have hother : e.1 ≠ target := by
      rw [List.lookup_eq_none_iff] at hfree
      exact Ne.symm (bne_iff_ne.1 (hfree e he))
    have hself : e.1 ≠ source := by
      rintro heq
      exact hprefix (heq ▸ List.prefix_rfl)
    rw [moved_eq_self hprefix]
    exact iff_of_false hother hself

theorem lookup_rename_source (hapart : ¬ target <+: source) :
    (d.rename source target).entries.lookup source = none := by
  rw [entries_rename, List.lookup_eq_none_iff]
  intro e he
  obtain ⟨old, -, rfl⟩ := List.mem_map.1 he
  rw [bne_iff_ne]
  intro heq
  by_cases hprefix : source <+: old.1
  · obtain ⟨rest, hrest⟩ := hprefix
    rw [← hrest, moved_append] at heq
    exact hapart (heq ▸ List.prefix_append target rest)
  · rw [moved_eq_self hprefix] at heq
    exact hprefix (heq ▸ List.prefix_rfl)

/-- Renaming leaves alone what lies neither at the source nor at the target. -/
theorem lookup_rename_of_apart (hsource : ¬ source <+: q) (htarget : ¬ target <+: q) :
    (d.rename source target).entries.lookup q = d.entries.lookup q := by
  rw [entries_rename]
  apply lookup_map_of_iff
  intro e _
  by_cases hprefix : source <+: e.1
  · obtain ⟨rest, hrest⟩ := hprefix
    rw [← hrest, moved_append]
    apply iff_of_false
    · rintro rfl
      exact htarget (List.prefix_append target rest)
    · rintro rfl
      exact hsource (List.prefix_append source rest)
  · rw [moved_eq_self hprefix]

/-- What moving a file under one path to another one leaves. -/
structure IsShift (d : Disk) (source target : Path) (d' : Disk) : Prop where
  contents : d'.contents = d.contents
  free : d'.entry? source = none
  taken : d'.entry? target = (d.entry? source).or (d.entry? target)
  others : ∀ q, ¬ source <+: q → ¬ target <+: q → d'.entry? q = d.entry? q

/-- Moving a file succeeds unless a directory is at the target, and leaves other paths alone. -/
theorem shift?_spec (hsource : source.IsNamed) (htarget : target.IsNamed)
    (hapart : ¬ target <+: source) (hfree : d.entry? target ≠ some .directory) :
    ∃ d', d.shift? source target = some d' ∧ IsShift d source target d' := by
  have hne : source ≠ target := by
    rintro rfl
    exact hapart List.prefix_rfl
  cases hentry : d.entry? source with
  | none =>
    refine ⟨d, by rw [shift?, hentry], rfl, hentry, ?_, fun _ _ _ ↦ rfl⟩
    rw [hentry, Option.none_or]
  | some e =>
    refine ⟨(d.discard target).rename source target, ?_, rfl, ?_, ?_, ?_⟩
    · rw [shift?, hentry, clear?, if_neg hfree]
      rfl
    · rw [entry?_of_isNamed hsource]
      exact lookup_rename_source hapart
    · rw [entry?_of_isNamed htarget, lookup_rename_target (lookup_discard_self d target),
        lookup_discard_of_ne d hne, ← entry?_of_isNamed hsource, hentry, Option.some_or]
    · intro q hq hq'
      apply entry?_congr
      rw [lookup_rename_of_apart hq hq', lookup_discard_of_ne]
      rintro rfl
      exact hq' List.prefix_rfl

end Disk

end ValidatorReader.Log
