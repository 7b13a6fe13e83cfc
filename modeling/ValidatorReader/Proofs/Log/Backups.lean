import ValidatorReader.Proofs.Log.Moves

/-!
# Moving a log aside

To move a log aside is to move it and each of its backups on by one place, the oldest one to where
nothing is or onto the last place, whose file is lost. Nothing beside them is touched, so the way to the
log stays and a new file can be opened there.
-/

namespace ValidatorReader.Log

variable {d d' : Disk} {p q : Path} {i j n number : ℕ}

namespace Disk

/-! ## A row of files moved on -/

/-- Whether nothing but the log and its backups has changed. -/
structure SameBeside (p : Path) (d d' : Disk) : Prop where
  contents : d'.contents = d.contents
  others : ∀ q, (∀ i, ¬ logPath p i <+: q) → d'.entry? q = d.entry? q

theorem SameBeside.trans {d'' : Disk} (h : SameBeside p d d') (h' : SameBeside p d' d'') :
    SameBeside p d d'' where
  contents := h'.contents.trans h.contents
  others q hq := (h'.others q hq).trans (h.others q hq)

theorem IsShift.same {k : ℕ} (h : IsShift d (logPath p i) (logPath p j) d') (hp : p ≠ [])
    (hi : k ≠ i) (hj : k ≠ j) : d'.entry? (logPath p k) = d.entry? (logPath p k) :=
  h.others _ (mt (logPath_prefix_iff hp).1 hi.symm) (mt (logPath_prefix_iff hp).1 hj.symm)

theorem IsShift.sameBeside (h : IsShift d (logPath p i) (logPath p j) d') : SameBeside p d d' where
  contents := h.contents
  others q hq := h.others q (hq i) (hq j)

theorem shift?_logPath (hp : p.IsNamed) (hij : i ≠ j)
    (hfree : d.entry? (logPath p j) ≠ some .directory) :
    ∃ d', d.shift? (logPath p i) (logPath p j) = some d' ∧
      IsShift d (logPath p i) (logPath p j) d' :=
  shift?_spec (isNamed_logPath hp i) (isNamed_logPath hp j)
    (mt (logPath_prefix_iff hp.ne_nil).1 hij.symm) hfree

/-- Whether the backups up to a place are files that stand in a row, so that a free place is followed by
free places. -/
structure InRow (d : Disk) (p : Path) (n : ℕ) : Prop where
  file : ∀ i, 0 < i → i ≤ n → d.entry? (logPath p i) ≠ some .directory
  dense : ∀ i, 0 < i → i < n → d.entry? (logPath p i) = none → d.entry? (logPath p (i + 1)) = none

/-- The place that has been left is the last one of what remains to be moved, so the row stays dense. -/
theorem InRow.shift (h : d.InRow p (n + 2))
    (hshift : IsShift d (logPath p (n + 1)) (logPath p (n + 2)) d') (hp : p ≠ []) :
    d'.InRow p (n + 1) where
  file i hpos hle := by
    by_cases hlast : i = n + 1
    · rw [hlast, hshift.free]
      exact nofun
    · rw [hshift.same hp hlast (by omega)]
      exact h.file i hpos (by omega)
  dense i hpos hlt hnone := by
    by_cases hlast : i = n
    · rw [hlast, hshift.free]
    · rw [hshift.same hp (by omega) (by omega)] at hnone ⊢
      exact h.dense i hpos (by omega) hnone

/-- What moving backups on, from a place down to the first one, leaves. -/
structure IsMovedOn (d : Disk) (p : Path) (n : ℕ) (d' : Disk) : Prop where
  first : d'.entry? (logPath p 1) = if n = 0 then d.entry? (logPath p 1) else none
  moved : ∀ i, 0 < i → i ≤ n → d'.entry? (logPath p (i + 1)) = d.entry? (logPath p i)
  same : ∀ i, i = 0 ∨ n + 1 < i → d'.entry? (logPath p i) = d.entry? (logPath p i)
  beside : SameBeside p d d'

/-- Backups are moved on from the last one to the first, so that each comes to a place that has been
left. -/
theorem shiftBackups_spec (hp : p.IsNamed) (h : d.InRow p (n + 1)) :
    ∃ d', d.shiftBackups p n = some d' ∧ IsMovedOn d p n d' := by
  induction n generalizing d with
  | zero =>
    refine ⟨d, rfl, rfl, ?_, fun _ _ ↦ rfl, rfl, fun _ _ ↦ rfl⟩
    intro i hpos hle
    omega
  | succ n ih =>
    obtain ⟨mid, hshift, hmid⟩ :=
      shift?_logPath (i := n + 1) (j := n + 2) hp (by omega) (h.file _ (by omega) (by omega))
    have hsame {k : ℕ} (hk : k ≠ n + 1) (hk' : k ≠ n + 2) :
        mid.entry? (logPath p k) = d.entry? (logPath p k) := hmid.same hp.ne_nil hk hk'
    have hmoved : mid.entry? (logPath p (n + 2)) = d.entry? (logPath p (n + 1)) := by
      rw [hmid.taken]
      cases hentry : d.entry? (logPath p (n + 1)) with
      | none => rw [Option.none_or, h.dense (n + 1) (by omega) (by omega) hentry]
      | some e => rw [Option.some_or]
    obtain ⟨d', hshifts, hrest⟩ := ih (h.shift hmid hp.ne_nil)
    refine ⟨d', ?run, ?first, ?moved, ?same, hmid.sameBeside.trans hrest.beside⟩
    case run =>
      rw [shiftBackups]
      show (d.shift? (logPath p (n + 1)) (logPath p (n + 2)) >>= _) = _
      rw [hshift]
      exact hshifts
    case first =>
      rw [hrest.first, if_neg (Nat.succ_ne_zero n)]
      split
      case isTrue hzero =>
        subst hzero
        exact hmid.free
      case isFalse => rfl
    case moved =>
      intro i hpos hle
      by_cases hlast : i = n + 1
      · rw [hlast, hrest.same _ (by omega), hmoved]
      · rw [hrest.moved i hpos (by omega), hsame hlast (by omega)]
    case same =>
      intro i hi
      rw [hrest.same i (by omega), hsame (by omega) (by omega)]

/-- What moving a log aside leaves, with a number of backups to keep. -/
structure IsMovedAside (d : Disk) (p : Path) (backups : ℕ) (d' : Disk) : Prop where
  log : d'.entry? p = none
  moved : ∀ i < backups, d'.entry? (logPath p (i + 1)) = d.entry? (logPath p i)
  beyond : ∀ i, backups < i → d'.entry? (logPath p i) = d.entry? (logPath p i)
  beside : SameBeside p d d'

/-- Unless a directory is in its place, a backup can be removed, and nothing else is. -/
theorem clear?_logPath (hp : p.IsNamed) (hfile : d.entry? (logPath p i) ≠ some .directory) :
    ∃ d', d.clear? (logPath p i) = some d' ∧ d'.entry? (logPath p i) = none ∧
      (∀ k, k ≠ i → d'.entry? (logPath p k) = d.entry? (logPath p k)) ∧ SameBeside p d d' := by
  refine ⟨d.discard (logPath p i), if_neg hfile, ?_, ?_, rfl, ?_⟩
  · rw [entry?_of_isNamed (isNamed_logPath hp i), lookup_discard_self]
  · intro k hk
    exact entry?_congr (lookup_discard_of_ne d ((logPath_injective hp.ne_nil).ne hk))
  · intro q hq
    apply entry?_congr (lookup_discard_of_ne d _)
    rintro rfl
    exact hq i List.prefix_rfl

/-- Moving a log aside succeeds if no directory is in the way, and moves each backup on by one. -/
theorem moveAside_spec {backupCount : ℤ} (hp : p.IsNamed) (hcount : 0 < backupCount)
    (h : d.InRow p backupCount.toNat) :
    ∃ d', d.moveAside p backupCount = some d' ∧ IsMovedAside d p backupCount.toNat d' := by
  obtain ⟨n, hn⟩ : ∃ n, backupCount.toNat = n + 1 := ⟨backupCount.toNat - 1, by omega⟩
  rw [hn] at h ⊢
  obtain ⟨shifted, hshifts, hon⟩ := shiftBackups_spec hp h
  have hfile : shifted.entry? (logPath p 1) ≠ some .directory := by
    rw [hon.first]
    split
    · exact h.file 1 (by omega) (by omega)
    · exact nofun
  obtain ⟨cleared, hclear, hfree, hrest, hbeside⟩ := clear?_logPath hp hfile
  obtain ⟨d', hshift, hlast⟩ :=
    shift?_logPath (d := cleared) (i := 0) (j := 1) hp (by omega) (by rw [hfree]; exact nofun)
  have hkept {k : ℕ} (hk : k ≠ 0) (hk' : k ≠ 1) :
      d'.entry? (logPath p k) = shifted.entry? (logPath p k) := by
    rw [hlast.same hp.ne_nil hk hk', hrest k hk']
  refine ⟨d', ?_, hlast.free, ?_, ?_, (hon.beside.trans hbeside).trans hlast.sameBeside⟩
  · rw [moveAside, if_pos hcount, hn, Nat.add_sub_cancel, hshifts]
    show (shifted.clear? (logPath p 1) >>= _) = _
    rw [hclear]
    exact hshift
  · intro i hi
    cases i with
    | zero => rw [hlast.taken, hfree, Option.or_none, hrest 0 (by omega), hon.same 0 (.inl rfl)]
    | succ i => rw [hkept (by omega) (by omega), hon.moved _ (by omega) (by omega)]
  · intro i hi
    rw [hkept (by omega) (by omega), hon.same i (.inr hi)]

/-! ## A new file in the place of the log -/

theorem length_step_le (p : Path) (part : String) : (p.step part).length ≤ p.length + 1 := by
  unfold Path.step
  split
  case isTrue =>
    split
    case h_1 => simp
    case h_2 last _ =>
      split
      · simp
      · split
        · simp
        · rw [List.length_dropLast]
          omega
  case isFalse => simp

/-- Following parts looks only at paths that are no longer than the way it may go. -/
theorem follow_congr {parts : List String}
    (h : ∀ q : Path, q.length ≤ p.length + parts.length → d'.entry? q = d.entry? q) :
    d'.follow p parts = d.follow p parts := by
  induction parts generalizing p with
  | nil => rfl
  | cons part parts ih =>
    have hstep := length_step_le p part
    rw [List.length_cons] at h
    rw [follow, follow, h _ (by omega)]
    split
    · apply ih
      intro q hq
      exact h q (by omega)
    · rfl
    · rfl

theorem openFile_of_free {way : Path} (hway : d.follow [] p.dropLast = .ok way)
    (hfree : d.entry? p = none) : d.openFile p = .ok (d.withNewFile p, d.contents.length) := by
  rw [openFile, hway, hfree]
  rfl

theorem entry?_withNewFile_of_ne (d : Disk) (h : q ≠ p) :
    entry? (d.withNewFile p) q = d.entry? q := by
  apply entry?_congr
  rw [withNewFile, List.lookup_cons, beq_false_of_ne h]

/-- A new file does not change the way to the directory it is in. -/
theorem follow_withNewFile (d : Disk) (hp : p ≠ []) :
    (d.withNewFile p).follow [] p.dropLast = d.follow [] p.dropLast := by
  have hlength := List.length_pos_iff.2 hp
  apply follow_congr
  intro q hq
  apply entry?_withNewFile_of_ne
  rintro rfl
  rw [List.length_nil, List.length_dropLast] at hq
  omega

/-- Whether a log and its backups are files with the given numbers, from the newest on, with nothing
under the names of further backups. -/
structure HasLog (d : Disk) (p : Path) (numbers : List ℕ) : Prop where
  way : ∃ way, d.follow [] p.dropLast = .ok way
  entry : ∀ i, d.entry? (logPath p i) = numbers[i]?.map .file
  bound : ∀ number ∈ numbers, number < d.contents.length
  nodup : numbers.Nodup

variable {numbers : List ℕ}

theorem HasLog.inRow (h : d.HasLog p numbers) (n : ℕ) : d.InRow p n where
  file i _ _ := by
    rw [h.entry]
    cases numbers[i]? <;> exact nofun
  dense i _ _ hnone := by
    rw [h.entry, Option.map_eq_none_iff, List.getElem?_eq_none_iff] at hnone ⊢
    omega

theorem HasLog.isNamed (h : d.HasLog p (number :: numbers)) : p.IsNamed :=
  isNamed_of_file (h.entry 0)

theorem SameBeside.follow_eq (h : SameBeside p d d') (hp : p ≠ []) :
    d'.follow [] p.dropLast = d.follow [] p.dropLast := by
  apply follow_congr
  intro q hq
  have hlength := List.length_pos_iff.2 hp
  rw [List.length_nil, List.length_dropLast] at hq
  exact h.others q (not_logPath_prefix_of_length hp (by omega))

/-- A log that has been moved aside, with a new file in its place. -/
theorem HasLog.reopen {aside : Disk} {backups : ℕ} (h : d.HasLog p (number :: numbers))
    (hlength : numbers.length ≤ backups) (haside : IsMovedAside d p backups aside) :
    (aside.withNewFile p).HasLog p (d.contents.length :: (number :: numbers).take backups) := by
  have hp := h.isNamed.ne_nil
  have hcontents := haside.beside.contents
  have hother {i : ℕ} : logPath p (i + 1) ≠ p := (logPath_injective hp).ne (Nat.succ_ne_zero i)
  refine ⟨?way, ?entry, ?bound, ?nodup⟩
  case way =>
    rw [follow_withNewFile aside hp, haside.beside.follow_eq hp]
    exact h.way
  case entry =>
    intro i
    cases i with
    | zero =>
      have hnew := entry?_withNewFile_self haside.log
      rwa [hcontents] at hnew
    | succ i =>
      rw [entry?_withNewFile_of_ne _ hother, List.getElem?_cons_succ, List.getElem?_take]
      split
      case isTrue hlt => rw [haside.moved i hlt, h.entry]
      case isFalse hle =>
        rw [haside.beyond (i + 1) (by omega), h.entry, List.getElem?_eq_none]
        rw [List.length_cons]
        omega
  case bound =>
    have hlength : (aside.withNewFile p).contents.length = d.contents.length + 1 := by
      rw [Disk.withNewFile, hcontents, List.length_append, List.length_singleton]
    intro n hn
    rw [hlength]
    rcases List.mem_cons.1 hn with rfl | hn
    · exact Nat.lt_succ_self _
    · exact (h.bound n (List.mem_of_mem_take hn)).trans (Nat.lt_succ_self _)
  case nodup =>
    refine List.nodup_cons.2 ⟨?_, h.nodup.sublist (List.take_sublist _ _)⟩
    intro hmem
    exact (h.bound _ (List.mem_of_mem_take hmem)).false

/-- A rotation puts a new file in front of those of the log, of which as many stay as are wanted. -/
theorem HasLog.rotate {f : RotatingFile} (h : d.HasLog f.path (number :: numbers))
    (hcount : 0 < f.backupCount) (hlength : numbers.length ≤ f.backupCount.toNat) :
    ∃ d', f.rotate d = some (d', d.contents.length) ∧
      d'.HasLog f.path (d.contents.length :: (number :: numbers).take f.backupCount.toNat) ∧
      d'.contents = d.contents ++ [""] := by
  obtain ⟨way, hway⟩ := h.way
  obtain ⟨aside, haside, hspec⟩ := moveAside_spec h.isNamed hcount (h.inRow _)
  have hcontents := hspec.beside.contents
  have hopen : aside.openFile f.path = .ok (aside.withNewFile f.path, d.contents.length) := by
    rw [openFile_of_free ((hspec.beside.follow_eq h.isNamed.ne_nil).trans hway) hspec.log, hcontents]
  refine ⟨aside.withNewFile f.path, ?_, h.reopen hlength hspec, ?_⟩
  · rw [RotatingFile.rotate, haside]
    show (aside.openFile f.path).toOption = _
    rw [hopen]
    rfl
  · rw [withNewFile, hcontents]

end Disk

end ValidatorReader.Log
