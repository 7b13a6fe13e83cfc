import Mathlib
import ValidatorReader.Log.Instant
import ValidatorReader.Proofs.Number.Decimal

/-!
# The text of an instant

An instant is shown as a date of the calendar and a time of day in universal time: numbers padded with
zeros, with fixed marks between them and a fraction unless it is zero. Reading the text gives the instant
back.
-/

namespace ValidatorReader.Log

namespace Instant

def start : Instant where
  microseconds := 0

variable {n : ℕ} {c : Char}

/-! ## Figures -/

theorem toList_figures (size n : ℕ) : (figures size n).toList =
    List.replicate (size - (Nat.toDigits 10 n).length) '0' ++ Nat.toDigits 10 n := by
  rw [figures, Int.toNat_natCast, String.toList_append, String.toList_ofList,
    ← Number.toList_toString, String.length_toList]

theorem isDigit_of_mem_figures {size : ℕ} (h : c ∈ (figures size n).toList) : c.isDigit = true := by
  rw [toList_figures, List.mem_append] at h
  rcases h with h | h
  · rw [List.eq_of_mem_replicate h]
    rfl
  · exact Number.isDigit_of_mem_toDigits h

theorem length_figures (size : ℕ) (hsize : 0 < size) (h : n < 10 ^ size) :
    (figures size n).toList.length = size := by
  have hlength : (Nat.toDigits 10 n).length ≤ size :=
    (Nat.length_toDigits_le_iff (by decide) hsize).2 h
  rw [toList_figures, List.length_append, List.length_replicate, Nat.sub_add_cancel hlength]

/-- Zeros in front do not change a number. -/
theorem number?_figures (size n : ℕ) : number? (figures size n).toList = some n := by
  have hne : (figures size n).toList ≠ [] := by
    rw [toList_figures]
    exact List.append_ne_nil_of_right_ne_nil _ Nat.toDigits_ne_nil
  have hdigits : (figures size n).toList.all Char.isDigit = true :=
    List.all_eq_true.2 fun _ ↦ isDigit_of_mem_figures
  have hzeros (k : ℕ) : (List.replicate k '0').foldl (fun n c ↦ 10 * n + (c.toNat - 48)) 0 = 0 := by
    induction k with
    | zero => rfl
    | succ k ih => exact ih
  rw [number?, hdigits, List.isEmpty_eq_false_iff.2 hne, Bool.not_false, Bool.and_true, if_pos rfl,
    toList_figures, List.foldl_append, hzeros]
  exact congrArg some Nat.ofDigitChars_ten_toDigits

/-! ## The calendar -/

theorem daysBeforeYear_succ (year : ℤ) :
    daysBeforeYear (year + 1) = 365 * year + year / 4 - year / 100 + year / 400 := by
  rw [daysBeforeYear, add_sub_cancel_right]

/-- The estimate from the mean length of a year is at most two years too low. -/
theorem estimate_bounds (day : ℤ) : daysBeforeYear (day * 400 / 146097) ≤ day ∧
    day < daysBeforeYear (day * 400 / 146097 + 2 + 1) := by
  obtain ⟨year, hyear⟩ : ∃ year, day * 400 / 146097 = year + 1 := ⟨_, (sub_add_cancel _ 1).symm⟩
  rw [daysBeforeYear_succ, hyear, daysBeforeYear_succ]
  omega

/-- The estimated year is corrected to the one that the day lies in. -/
theorem yearOfDay_spec (day : ℤ) :
    daysBeforeYear (yearOfDay day) ≤ day ∧ day < daysBeforeYear (yearOfDay day + 1) := by
  obtain ⟨hlow, hhigh⟩ := estimate_bounds day
  unfold yearOfDay
  dsimp only
  split
  case isTrue h => exact ⟨h, hhigh⟩
  case isFalse h =>
    split
    case isTrue h' =>
      refine ⟨h', ?_⟩
      rw [add_assoc]
      exact not_le.1 h
    case isFalse h' => exact ⟨hlow, not_le.1 h'⟩

/-- The months of a year make up the year, leap day included. -/
theorem sum_monthLengths (year : ℤ) :
    (monthLengths year).sum = daysBeforeYear (year + 1) - daysBeforeYear year := by
  obtain ⟨before, rfl⟩ : ∃ before, year = before + 1 := ⟨_, (sub_add_cancel _ 1).symm⟩
  rw [daysBeforeYear_succ, daysBeforeYear_succ]
  have h4 : (before + 1) / 4 = before / 4 + if (before + 1) % 4 = 0 then 1 else 0 := by omega
  have h100 : (before + 1) / 100 = before / 100 + if (before + 1) % 100 = 0 then 1 else 0 := by omega
  have h400 : (before + 1) / 400 = before / 400 + if (before + 1) % 400 = 0 then 1 else 0 := by omega
  rw [h4, h100, h400]
  simp only [monthLengths, isLeapYear, Bool.and_eq_true, Bool.or_eq_true, beq_iff_eq, bne_iff_ne,
    List.sum_cons, List.sum_nil]
  split_ifs <;> omega

/-- A day is found in the month that it is in, by the lengths of the months. -/
theorem monthAndDay_spec (lengths : List ℤ) {day : ℤ} (month : ℕ) (hday : 0 ≤ day)
    (hlt : day < lengths.sum) : ∃ k length, lengths[k]? = some length ∧
      (monthAndDay month lengths day).1 = month + k ∧ 1 ≤ (monthAndDay month lengths day).2 ∧
      (monthAndDay month lengths day).2 ≤ length ∧
      (lengths.take k).sum + ((monthAndDay month lengths day).2 - 1) = day := by
  induction lengths generalizing month day with
  | nil =>
    rw [List.sum_nil] at hlt
    omega
  | cons first lengths ih =>
    rw [monthAndDay]
    split
    case isTrue hfirst => exact ⟨0, first, rfl, rfl, by omega, by omega, by simp⟩
    case isFalse hlater =>
      rw [List.sum_cons] at hlt
      obtain ⟨k, length, hlength, hmonth, hone, hle, hsum⟩ :=
        ih (month + 1) (sub_nonneg.2 (not_lt.1 hlater)) (sub_lt_iff_lt_add'.2 hlt)
      refine ⟨k + 1, length, hlength, by omega, hone, hle, ?_⟩
      rw [List.take_succ_cons, List.sum_cons]
      omega

/-- Whether there is a date in the years from 1 to 9999. -/
structure IsDate (year month day : ℕ) : Prop where
  one_le_year : 1 ≤ year
  year_lt : year < 10000
  one_le_month : 1 ≤ month
  month_le : month ≤ 12
  one_le_day : 1 ≤ day
  day_le : ∀ length ∈ (monthLengths year)[month - 1]?, (day : ℤ) ≤ length

theorem length_monthLengths (year : ℤ) : (monthLengths year).length = 12 := rfl

theorem IsDate.day_lt {year month day : ℕ} (h : IsDate year month day) : day < 100 := by
  have hindex : month - 1 < (monthLengths year).length := by
    have hle := h.month_le
    rw [length_monthLengths]
    omega
  have hlengths : ∀ length ∈ monthLengths year, length ≤ 31 := by
    simp only [monthLengths, List.forall_mem_cons]
    split <;> simp
  have hlength := h.day_le _ (List.getElem?_eq_getElem hindex)
  have hlong := hlengths _ (List.getElem_mem hindex)
  omega

/-- The date that is shown for a day is the one of that day. -/
theorem exists_date {day : ℤ} (hday : 0 ≤ day) (hlt : day < daysBeforeYear 10000) :
    ∃ year month dayOfMonth : ℕ, IsDate year month dayOfMonth ∧
      dayOfDate year month dayOfMonth = day ∧ yearOfDay day = year ∧
      monthAndDay 1 (monthLengths year) (day - daysBeforeYear year) = (month, (dayOfMonth : ℤ)) := by
  obtain ⟨hstart, hend⟩ := yearOfDay_spec day
  generalize hshown : yearOfDay day = shown at hstart hend
  have hfirst : 1 ≤ shown ∧ shown < 10000 := by
    simp only [daysBeforeYear] at hstart hend hlt
    omega
  obtain ⟨year, rfl⟩ := Int.eq_ofNat_of_zero_le (hfirst.1.trans' (by decide))
  obtain ⟨k, length, hlength, hmonth, hone, hle, hsum⟩ :=
    monthAndDay_spec (monthLengths year) 1 (sub_nonneg.2 hstart)
      (by rw [sum_monthLengths]; exact sub_lt_sub_right hend _)
  generalize hfound : monthAndDay 1 (monthLengths year) (day - daysBeforeYear year) = found
    at hmonth hone hle hsum
  obtain ⟨month, dayOfMonth⟩ := found
  obtain ⟨dayOfMonth, rfl⟩ := Int.eq_ofNat_of_zero_le (hone.trans' (by decide))
  obtain rfl : month = 1 + k := hmonth
  have hk : k < 12 := (List.getElem?_eq_some_iff.1 hlength).1
  refine ⟨year, 1 + k, dayOfMonth, ⟨by omega, by omega, by omega, by omega, by omega, ?_⟩, ?_, rfl, hfound⟩
  · rw [Nat.add_sub_cancel_left, hlength]
    intro other hother
    rw [← Option.some.inj hother]
    exact hle
  · rw [dayOfDate, Nat.add_sub_cancel_left, ← List.sum_eq_foldl, add_assoc, hsum,
      add_sub_cancel]

/-- A date of the calendar and a time of day in universal time. -/
structure Civil where
  year : ℕ
  month : ℕ
  day : ℕ
  hour : ℕ
  minute : ℕ
  second : ℕ
  fraction : ℕ

namespace Civil

structure IsValid (c : Civil) : Prop where
  date : IsDate c.year c.month c.day
  hour_lt : c.hour < 24
  minute_lt : c.minute < 60
  second_lt : c.second < 60
  fraction_lt : c.fraction < 1000000

def microseconds (c : Civil) : ℤ :=
  dayOfDate c.year c.month c.day * microsecondsPerDay +
    (((c.hour * 60 + c.minute) * 60 + c.second) * 1000000 + c.fraction : ℕ)

/-- The date and the time of day, each number with all its figures; a fraction of zero is left out. -/
def text (c : Civil) : String :=
  figures 4 c.year ++ "-" ++ figures 2 c.month ++ "-" ++ figures 2 c.day ++ "T" ++
    figures 2 c.hour ++ ":" ++ figures 2 c.minute ++ ":" ++ figures 2 c.second ++
    (if c.fraction = 0 then "" else "." ++ figures 6 c.fraction) ++ "+00:00"

end Civil

theorem day_lt (t : Instant) : (t.microseconds : ℤ) / microsecondsPerDay < daysBeforeYear 10000 := by
  have hbound := t.lt_bound
  have hyears : daysBeforeYear 10000 = 3652059 := by decide
  rw [hyears]
  unfold instantBound at hbound
  unfold microsecondsPerDay
  omega

/-- An instant is shown as a date of the calendar and a time of day, which are those of the instant. -/
theorem exists_civil (t : Instant) :
    ∃ c : Civil, c.IsValid ∧ c.microseconds = t.microseconds ∧ t.render = c.text ∧
      (t.isWhole = true ↔ c.fraction = 0) := by
  have hday : 0 ≤ (t.microseconds : ℤ) / microsecondsPerDay :=
    Int.ediv_nonneg (Int.natCast_nonneg _) (by decide)
  obtain ⟨year, month, dayOfMonth, hdate, hdays, hyear, hmonth⟩ := exists_date hday (day_lt t)
  obtain ⟨inDay, hinDay⟩ := Int.eq_ofNat_of_zero_le
    (Int.emod_nonneg (t.microseconds : ℤ) (b := microsecondsPerDay) (by decide))
  have hsplit := Int.mul_ediv_add_emod (t.microseconds : ℤ) microsecondsPerDay
  have hlt := Int.emod_lt_of_pos (t.microseconds : ℤ) (b := microsecondsPerDay) (by decide)
  rw [hinDay] at hsplit hlt
  unfold microsecondsPerDay at hlt
  refine ⟨⟨year, month, dayOfMonth, inDay / 1000000 / 3600, inDay / 1000000 / 60 % 60,
    inDay / 1000000 % 60, inDay % 1000000⟩, ⟨hdate, ?_, ?_, ?_, ?_⟩, ?_, ?_, ?_⟩
  · dsimp only
    omega
  · exact Nat.mod_lt _ (by decide)
  · exact Nat.mod_lt _ (by decide)
  · exact Nat.mod_lt _ (by decide)
  · have htime : ((inDay / 1000000 / 3600 * 60 + inDay / 1000000 / 60 % 60) * 60 +
        inDay / 1000000 % 60) * 1000000 + inDay % 1000000 = inDay := by omega
    rw [Civil.microseconds, htime, hdays, mul_comm, hsplit]
  · have hzero : inDay % 1000000 = 0 ↔ (inDay : ℤ) % 1000000 = 0 := by omega
    simp only [render, Civil.text, hyear, hmonth, hinDay, hzero, Int.natCast_ediv, Int.natCast_emod,
      Nat.cast_ofNat]
  · rw [isWhole, beq_iff_eq]
    unfold microsecondsPerDay at hsplit
    dsimp only
    omega

/-! ## Reading back -/

theorem ne_mark_of_isDigit (h : c.isDigit = true) : (c != '+' && c != '-' && c != 'Z') = true := by
  have hne {m : Char} (hm : m.isDigit = false) : (c != m) = true := by
    rw [bne_iff_ne]
    rintro rfl
    rw [hm] at h
    cases h
  rw [hne (by decide), hne (by decide), hne (by decide)]
  rfl

theorem exists_figures_two (h : n < 100) : ∃ a b, (figures 2 n).toList = [a, b] ∧
    number? [a, b] = some n ∧ ∀ c ∈ [a, b], c.isDigit = true := by
  obtain ⟨a, b, hcs⟩ := List.length_eq_two.1 (length_figures 2 (by decide) h)
  refine ⟨a, b, hcs, ?_, ?_⟩
  · rw [← hcs, number?_figures]
  · rw [← hcs]
    exact fun _ ↦ isDigit_of_mem_figures

theorem exists_figures_four (h : n < 10000) : ∃ a b c d, (figures 4 n).toList = [a, b, c, d] ∧
    number? [a, b, c, d] = some n := by
  obtain ⟨a, b, c, d, hcs⟩ := List.length_eq_four.1 (length_figures 4 (by decide) h)
  refine ⟨a, b, c, d, hcs, ?_⟩
  rw [← hcs, number?_figures]

def secondsText (c : Civil) : List Char :=
  ':' :: (figures 2 c.second).toList ++
    (if c.fraction = 0 then "" else "." ++ figures 6 c.fraction).toList

theorem seconds?_secondsText {c : Civil} (h : c.IsValid) :
    seconds? (secondsText c) = some (c.second * 1000000 + c.fraction) := by
  obtain ⟨a, b, hcs, hnumber, -⟩ := exists_figures_two (h.second_lt.trans (by decide))
  rw [secondsText, hcs]
  by_cases hzero : c.fraction = 0
  · rw [if_pos hzero, hzero]
    show (number? [a, b]).map (· * 1000000) = _
    rw [hnumber, Option.map_some, Nat.add_zero]
  · have hlength := length_figures 6 (by decide) h.fraction_lt
    have hdigits : (figures 6 c.fraction).toList.all Char.isDigit = true :=
      List.all_eq_true.2 fun _ ↦ isDigit_of_mem_figures
    have hfraction : fraction? (figures 6 c.fraction).toList = some c.fraction := by
      rw [fraction?, hdigits, if_pos rfl, List.take_of_length_le hlength.le, number?_figures, hlength]
      simp
    have hdot : ".".toList = ['.'] := rfl
    rw [if_neg hzero, String.toList_append, hdot]
    show (do
      let whole ← number? [a, b]
      let part ← fraction? (figures 6 c.fraction).toList
      return whole * 1000000 + part) = _
    rw [hnumber, hfraction]
    simp only [Option.bind_eq_bind, Option.bind_some, Option.pure_def]

def timeText (c : Civil) : List Char :=
  (figures 2 c.hour).toList ++ ':' :: (figures 2 c.minute).toList ++ secondsText c

/-- A time is read back, with and without a fraction. -/
theorem timeOfDay?_timeText {c : Civil} (h : c.IsValid) : timeOfDay? (timeText c) =
    some (((c.hour * 60 + c.minute) * 60 + c.second) * 1000000 + c.fraction) := by
  obtain ⟨h₁, h₂, hhour, hhours, -⟩ := exists_figures_two (h.hour_lt.trans (by decide))
  obtain ⟨m₁, m₂, hminute, hminutes, -⟩ := exists_figures_two (h.minute_lt.trans (by decide))
  rw [timeText, hhour, hminute]
  show (do
    let hours ← number? [h₁, h₂]
    let minutes ← number? [m₁, m₂]
    let seconds ← seconds? (secondsText c)
    return (hours * 60 + minutes) * 60000000 + seconds) = _
  rw [hhours, hminutes, seconds?_secondsText h]
  simp only [Option.bind_eq_bind, Option.bind_some, Option.pure_def, Option.some_inj]
  omega

theorem isDigit_or_mark_of_mem_timeText {civil : Civil} (h : c ∈ timeText civil) :
    c.isDigit = true ∨ c = ':' ∨ c = '.' := by
  simp only [timeText, secondsText, List.mem_append, List.mem_cons] at h
  rcases h with (h | h | h) | (h | h) | h
  · exact .inl (isDigit_of_mem_figures h)
  · exact .inr (.inl h)
  · exact .inl (isDigit_of_mem_figures h)
  · exact .inr (.inl h)
  · exact .inl (isDigit_of_mem_figures h)
  · split at h
    · cases h
    · rw [String.toList_append, List.mem_append] at h
      rcases h with h | h
      · exact .inr (.inr (List.mem_singleton.1 h))
      · exact .inl (isDigit_of_mem_figures h)

theorem ne_mark_of_mem_timeText {civil : Civil} (h : c ∈ timeText civil) :
    (c != '+' && c != '-' && c != 'Z') = true := by
  rcases isDigit_or_mark_of_mem_timeText h with h | rfl | rfl
  · exact ne_mark_of_isDigit h
  · rfl
  · rfl

theorem toList_text (c : Civil) : c.text.toList =
    (figures 4 c.year).toList ++ '-' :: (figures 2 c.month).toList ++ '-' :: (figures 2 c.day).toList ++
      'T' :: timeText c ++ "+00:00".toList := by
  have hdash : "-".toList = ['-'] := rfl
  have hmiddle : "T".toList = ['T'] := rfl
  have hcolon : ":".toList = [':'] := rfl
  simp only [Civil.text, timeText, secondsText, String.toList_append, hdash, hmiddle, hcolon,
    List.append_assoc, List.cons_append, List.nil_append]

/-- A date and a time of day are read as they are shown. -/
theorem ofText?_text {c : Civil} (h : c.IsValid) : ofText? c.text = ofMicroseconds? c.microseconds := by
  obtain ⟨y₁, y₂, y₃, y₄, hyear, hyears⟩ := exists_figures_four h.date.year_lt
  have hmonth := h.date.month_le
  obtain ⟨m₁, m₂, hmonth, hmonths, -⟩ := exists_figures_two (n := c.month) (by omega)
  obtain ⟨d₁, d₂, hday, hdays, -⟩ := exists_figures_two h.date.day_lt
  have htime : (timeText c ++ "+00:00".toList).takeWhile (fun c ↦ c != '+' && c != '-' && c != 'Z') =
      timeText c := by
    rw [List.takeWhile_append_of_pos fun _ ↦ ne_mark_of_mem_timeText]
    exact List.append_nil _
  have hoffset : offset? "+00:00".toList = some 0 := by decide
  rw [ofText?, toList_text, hyear, hmonth, hday]
  show (do
    let year ← number? [y₁, y₂, y₃, y₄]
    let month ← number? [m₁, m₂]
    let day ← number? [d₁, d₂]
    let rest := timeText c ++ "+00:00".toList
    let time := rest.takeWhile fun c ↦ c != '+' && c != '-' && c != 'Z'
    let timeOfDay ← timeOfDay? time
    let offset ← offset? (rest.drop time.length)
    ofMicroseconds? (dayOfDate year month day * microsecondsPerDay + timeOfDay - offset)) = _
  simp only [hyears, hmonths, hdays, htime, timeOfDay?_timeText h, List.drop_left, hoffset,
    Option.bind_eq_bind, Option.bind_some, sub_zero]
  rfl

theorem ofMicroseconds?_microseconds (t : Instant) : ofMicroseconds? t.microseconds = some t := by
  rw [ofMicroseconds?, dif_pos ⟨Int.natCast_nonneg _, t.lt_bound⟩]
  rfl

/-- Whether a text shows an instant: a date of the calendar and a time of day that are those of the
instant, and from which it is read back. -/
structure IsShownAs (t : Instant) (text : String) : Prop where
  civil : ∃ c : Civil, c.IsValid ∧ c.microseconds = t.microseconds ∧ text = c.text
  readsBack : ofText? text = some t

theorem isShownAs_render (t : Instant) : t.IsShownAs t.render := by
  obtain ⟨c, hvalid, hmicroseconds, htext, -⟩ := exists_civil t
  refine ⟨⟨c, hvalid, hmicroseconds, htext⟩, ?_⟩
  rw [htext, ofText?_text hvalid, hmicroseconds, ofMicroseconds?_microseconds]

/-! ## Characters and length -/

/-- The text of an instant is of digits and five marks, none of which is escaped in a line. -/
theorem isDigit_or_mark_of_mem_render {t : Instant} (h : c ∈ t.render.toList) :
    c.isDigit = true ∨ c ∈ ['-', 'T', ':', '.', '+'] := by
  obtain ⟨civil, -, -, htext, -⟩ := exists_civil t
  have hoffset : "+00:00".toList.all (fun c ↦ c.isDigit || ['-', 'T', ':', '.', '+'].contains c) = true := by
    decide
  rw [htext, toList_text] at h
  simp only [List.mem_append, List.mem_cons] at h
  rcases h with (((h | rfl | h) | rfl | h) | rfl | h) | h
  · exact .inl (isDigit_of_mem_figures h)
  · exact .inr (by decide)
  · exact .inl (isDigit_of_mem_figures h)
  · exact .inr (by decide)
  · exact .inl (isDigit_of_mem_figures h)
  · exact .inr (by decide)
  · rcases isDigit_or_mark_of_mem_timeText h with h | rfl | rfl
    · exact .inl h
    · exact .inr (by decide)
    · exact .inr (by decide)
  · simpa using List.all_eq_true.1 hoffset c h

/-- A fraction makes the text of an instant seven characters longer. -/
theorem length_render (t : Instant) :
    t.render.length = if t.isWhole then 25 else 32 := by
  obtain ⟨c, hvalid, -, htext, hwhole⟩ := exists_civil t
  have hyear := length_figures 4 (by decide) hvalid.date.year_lt
  have hmonth := length_figures 2 (by decide) (hvalid.date.month_le.trans_lt (by decide))
  have hday := length_figures 2 (by decide) hvalid.date.day_lt
  have hhour := length_figures 2 (by decide) (hvalid.hour_lt.trans (by decide))
  have hminute := length_figures 2 (by decide) (hvalid.minute_lt.trans (by decide))
  have hsecond := length_figures 2 (by decide) (hvalid.second_lt.trans (by decide))
  have hfraction := length_figures 6 (by decide) hvalid.fraction_lt
  have hoffset : "+00:00".toList.length = 6 := rfl
  rw [htext, ← String.length_toList, toList_text, timeText, secondsText]
  simp only [List.length_append, List.length_cons, hyear, hmonth, hday, hhour, hminute, hsecond, hoffset]
  by_cases hzero : c.fraction = 0
  · rw [if_pos hzero, if_pos (hwhole.2 hzero)]
    rfl
  · rw [if_neg hzero, if_neg (mt hwhole.1 hzero), String.toList_append, List.length_append, hfraction]
    rfl

end Instant

end ValidatorReader.Log
