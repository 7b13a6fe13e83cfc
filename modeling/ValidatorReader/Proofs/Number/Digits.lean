import Mathlib
import ValidatorReader.Number.IntegerText

/-!
# Digits and runs of digits

A digit is a figure of any script, or one of the first six Latin letters in either case. A run is made
of digits below a base, with single underscores between them. The readers of numbers look at figures
in their ASCII form only, and take exactly the runs.
-/

namespace ValidatorReader.Number

variable {base d : ℕ} {c : Char} {cs back : List Char} {ds : List ℕ} {form : Char → Char}

/-! ## Digits -/

/-- The number that a character stands for as a digit. -/
inductive HasValue (c : Char) : ℕ → Prop
  | figure {d : ℕ} (figure : Text.digitValue? c = some d) : HasValue c d
  | lower {d : ℕ} (letter : c.toNat = 'a'.toNat + d) (first : d < 6) : HasValue c (10 + d)
  | upper {d : ℕ} (letter : c.toNat = 'A'.toNat + d) (first : d < 6) : HasValue c (10 + d)

theorem digitValue?_of_lt (h : c.toNat < 0x80) :
    Text.digitValue? c =
      if 48 ≤ c.toNat ∧ c.toNat ≤ 57 then some (c.toNat - 48) else none := by
  have hall : ∀ n < 0x80, Text.digitValue? (Char.ofNat n) =
      if 48 ≤ n ∧ n ≤ 57 then some (n - 48) else none := by decide +kernel
  have hc := hall c.toNat h
  rwa [Char.ofNat_toNat] at hc

/-- No blank is a figure. -/
theorem isBlank_eq_false_of_digitValue? (h : Text.digitValue? c = some d) :
    Text.isBlank c = false := by
  have hall : ∀ first ∈ Text.digitZeros, ∀ k < 10, Text.isBlank (Char.ofNat (first + k)) = false := by
    decide +kernel
  simp only [Text.digitValue?, Option.map_eq_some_iff] at h
  obtain ⟨first, hfind, rfl⟩ := h
  have hin := List.find?_some hfind
  simp only [Bool.and_eq_true, decide_eq_true_eq] at hin
  have hblank := hall first (List.mem_of_find?_eq_some hfind) (c.toNat - first) (by omega)
  rwa [Nat.add_sub_cancel' hin.1, Char.ofNat_toNat] at hblank

/-- Among ASCII characters the values of digits are those of hexadecimal ones. -/
theorem hexValue?_of_lt (h : c.toNat < 0x80) : Bytes.hexValue? c = some d ↔ HasValue c d := by
  constructor
  · intro hvalue
    simp only [Bytes.hexValue?, Bool.and_eq_true, decide_eq_true_eq] at hvalue
    split at hvalue
    · rename_i hfigure
      obtain rfl := Option.some.inj hvalue
      exact .figure (by rw [digitValue?_of_lt h, if_pos hfigure])
    split at hvalue
    · rename_i hlower
      have hd : d = 10 + (c.toNat - 97) := by
        rw [← Option.some.inj hvalue]
        omega
      rw [hd]
      exact .lower (Nat.add_sub_cancel' hlower.1).symm (by omega)
    split at hvalue
    · rename_i hupper
      have hd : d = 10 + (c.toNat - 65) := by
        rw [← Option.some.inj hvalue]
        omega
      rw [hd]
      exact .upper (Nat.add_sub_cancel' hupper.1).symm (by omega)
    · cases hvalue
  · intro hvalue
    have ha : 'a'.toNat = 97 := rfl
    have hA : 'A'.toNat = 65 := rfl
    simp only [Bytes.hexValue?, Bool.and_eq_true, decide_eq_true_eq]
    cases hvalue with
    | figure figure =>
      rw [digitValue?_of_lt h, Option.ite_none_right_eq_some] at figure
      rw [if_pos figure.1, figure.2]
    | lower letter first =>
      rw [if_neg (by omega), if_pos (by omega), Option.some_inj]
      omega
    | upper letter first =>
      rw [if_neg (by omega), if_neg (by omega), if_pos (by omega), Option.some_inj]
      omega

theorem HasValue.figure_of_le (h : HasValue c d) (hc : 0x80 ≤ c.toNat) :
    Text.digitValue? c = some d := by
  have ha : 'a'.toNat = 97 := rfl
  have hA : 'A'.toNat = 65 := rfl
  cases h with
  | figure figure => exact figure
  | lower letter first => omega
  | upper letter first => omega

/-- The ASCII form of a character has the same value as a digit. -/
theorem hexValue?_asciiForm : Bytes.hexValue? (asciiForm c) = some d ↔ HasValue c d := by
  by_cases hc : c.toNat < 0x80
  · rw [asciiForm, if_pos hc, hexValue?_of_lt hc]
  have hfigure : HasValue c d ↔ Text.digitValue? c = some d :=
    ⟨fun h ↦ h.figure_of_le (not_lt.1 hc), .figure⟩
  rw [hfigure, asciiForm, if_neg hc]
  by_cases hblank : Text.isBlank c = true
  · rw [if_pos hblank]
    constructor
    · intro h
      cases h
    · intro h
      rw [isBlank_eq_false_of_digitValue? h] at hblank
      cases hblank
  · rw [if_neg hblank]
    cases hvalue : Text.digitValue? c with
    | none =>
      have hnone : Bytes.hexValue? c = none := by
        simp only [Bytes.hexValue?, Bool.and_eq_true, decide_eq_true_eq]
        rw [if_neg (by omega), if_neg (by omega), if_neg (by omega)]
      simp [hnone]
    | some e =>
      have he : e < 10 := Text.digitValue?_lt hvalue
      simp only [Bytes.hexValue?_hexDigit e (by omega)]

/-- A character that is neither a space nor a figure is the ASCII form of no other. -/
theorem asciiForm_eq_iff {m : Char} (hascii : m.toNat < 0x80) (hspace : m ≠ ' ')
    (hfigure : m.isDigit = false) : asciiForm c = m ↔ c = m := by
  by_cases hc : c.toNat < 0x80
  · rw [asciiForm, if_pos hc]
  have hne : c ≠ m := by
    rintro rfl
    exact hc hascii
  rw [asciiForm, if_neg hc]
  refine iff_of_false ?_ hne
  split
  · exact hspace.symm
  split
  · rename_i e hvalue
    have hfigures : ∀ n < 10, (Bytes.hexDigit n).isDigit = true := by decide
    rintro rfl
    rw [hfigures e (Text.digitValue?_lt hvalue)] at hfigure
    cases hfigure
  · exact hne

/-! ## Numbers of digits -/

theorem ofDigits_eq (base : ℕ) (ds : List ℕ) : ofDigits base ds = Nat.ofDigits base ds.reverse := by
  induction ds using List.reverseRecOn with
  | nil => rfl
  | append_singleton ds d ih =>
    rw [List.reverse_concat, Nat.ofDigits_cons, ← ih, ofDigits, List.foldl_concat, ← ofDigits]
    exact Nat.add_comm _ _

/-! ## Signs -/

/-- The signs in front of a number, and whether they are a minus. -/
inductive Sign : List Char → Bool → Prop
  | none : Sign [] false
  | plus : Sign ['+'] false
  | minus : Sign ['-'] true

/-- Whether a change of characters keeps the signs, and makes no others. -/
structure KeepsSigns (form : Char → Char) : Prop where
  minus (c : Char) : form c = '-' ↔ c = '-'
  plus (c : Char) : form c = '+' ↔ c = '+'

theorem takeSign_cons_of_ne (h : c ≠ '-' ∧ c ≠ '+') : takeSign (c :: cs) = (false, c :: cs) := by
  unfold takeSign
  split
  · rename_i heq
    exact absurd (List.cons.inj heq).1 h.1
  · rename_i heq
    exact absurd (List.cons.inj heq).1 h.2
  · rfl

/-- Changing characters does not change the sign if it keeps signs. -/
theorem takeSign_map (h : KeepsSigns form) (cs : List Char) :
    takeSign (cs.map form) = ((takeSign cs).1, (takeSign cs).2.map form) := by
  cases cs with
  | nil => rfl
  | cons c cs =>
    by_cases hminus : c = '-'
    · subst hminus
      rw [List.map_cons, (h.minus '-').2 rfl]
      rfl
    by_cases hplus : c = '+'
    · subst hplus
      rw [List.map_cons, (h.plus '+').2 rfl]
      rfl
    rw [List.map_cons, takeSign_cons_of_ne ⟨hminus, hplus⟩, List.map_cons,
      takeSign_cons_of_ne ⟨mt (h.minus c).1 hminus, mt (h.plus c).1 hplus⟩]

/-- A sign is taken from the front of every text. -/
theorem exists_sign (cs : List Char) :
    ∃ sign, Sign sign (takeSign cs).1 ∧ cs = sign ++ (takeSign cs).2 := by
  unfold takeSign
  split
  · exact ⟨['-'], .minus, rfl⟩
  · exact ⟨['+'], .plus, rfl⟩
  · exact ⟨[], .none, rfl⟩

/-- A sign is taken off what has none itself. -/
theorem Sign.takeSign_append {sign : List Char} {negative : Bool} (hsign : Sign sign negative)
    (hplain : ∀ c ∈ cs.head?, c ≠ '-' ∧ c ≠ '+') : takeSign (sign ++ cs) = (negative, cs) := by
  cases hsign with
  | none =>
    cases cs with
    | nil => rfl
    | cons c cs => exact takeSign_cons_of_ne (hplain c rfl)
  | plus => rfl
  | minus => rfl

theorem HasValue.ne_sign (value : HasValue c d) : c ≠ '-' ∧ c ≠ '+' := by
  have hnone (m : Char) (hm : Bytes.hexValue? (asciiForm m) = none) : c ≠ m := by
    rintro rfl
    rw [hexValue?_asciiForm.2 value] at hm
    cases hm
  exact ⟨hnone '-' rfl, hnone '+' rfl⟩

/-! ## Runs -/

/-- The runs of digits below a base, with the values of the digits in order. -/
inductive Run (base : ℕ) : List Char → List ℕ → Prop
  | last {c : Char} {d : ℕ} (value : HasValue c d) (below : d < base) : Run base [c] [d]
  | next {c : Char} {d : ℕ} {cs : List Char} {ds : List ℕ} (value : HasValue c d) (below : d < base)
    (rest : Run base cs ds) : Run base (c :: cs) (d :: ds)
  | apart {c : Char} {d : ℕ} {cs : List Char} {ds : List ℕ} (value : HasValue c d) (below : d < base)
    (rest : Run base cs ds) : Run base (c :: '_' :: cs) (d :: ds)

theorem Run.exists_cons (run : Run base cs ds) :
    ∃ c rest d e, cs = c :: rest ∧ ds = d :: e ∧ HasValue c d ∧ d < base := by
  cases run with
  | last value below => exact ⟨_, _, _, _, rfl, rfl, value, below⟩
  | next value below _ => exact ⟨_, _, _, _, rfl, rfl, value, below⟩
  | apart value below _ => exact ⟨_, _, _, _, rfl, rfl, value, below⟩

/-- A run begins with a digit, so it has no sign in front. -/
theorem Run.startsPlain (run : Run base cs ds) : ∀ c ∈ cs.head?, c ≠ '-' ∧ c ≠ '+' := by
  obtain ⟨c, rest, d, e, rfl, rfl, value, -⟩ := run.exists_cons
  rintro _ ⟨⟩
  exact value.ne_sign

theorem Run.lt_base (run : Run base cs ds) : ∀ d ∈ ds, d < base := by
  induction run with
  | last _ below => exact List.forall_mem_singleton.2 below
  | next _ below _ ih => exact List.forall_mem_cons.2 ⟨below, ih⟩
  | apart _ below _ ih => exact List.forall_mem_cons.2 ⟨below, ih⟩

/-- Whether a change of characters keeps digits and underscores, and makes no others. -/
structure KeepsDigits (base : ℕ) (form : Char → Char) : Prop where
  digit (c : Char) (d : ℕ) : digitBelow? base (form c) = some d ↔ HasValue c d ∧ d < base
  underscore (c : Char) : form c = '_' ↔ c = '_'

theorem keepsDigits_asciiForm (base : ℕ) : KeepsDigits base asciiForm where
  digit c d := by
    rw [digitBelow?, Option.filter_eq_some_iff, hexValue?_asciiForm, decide_eq_true_eq]
  underscore c := asciiForm_eq_iff (by decide) (by decide) (by decide)

/-- Whether a character may stand in a run. -/
def isRunChar (base : ℕ) (c : Char) : Bool :=
  c == '_' || (digitBelow? base c).isSome

theorem KeepsDigits.ne_underscore (h : KeepsDigits base form) (value : HasValue c d)
    (below : d < base) : form c ≠ '_' := by
  intro hform
  have hdigit := (h.digit c d).2 ⟨value, below⟩
  rw [hform] at hdigit
  cases hdigit

theorem KeepsDigits.isRunChar_of_value (h : KeepsDigits base form) (value : HasValue c d)
    (below : d < base) : isRunChar base (form c) = true := by
  rw [isRunChar, (h.digit c d).2 ⟨value, below⟩]
  exact Bool.or_true _

theorem KeepsDigits.isRunChar_underscore (h : KeepsDigits base form) :
    isRunChar base (form '_') = true := by
  rw [isRunChar, (h.underscore '_').2 rfl]
  rfl

theorem Run.isRunChar (h : KeepsDigits base form) (run : Run base cs ds) :
    ∀ c ∈ cs, isRunChar base (form c) = true := by
  induction run with
  | last value below => exact List.forall_mem_singleton.2 (h.isRunChar_of_value value below)
  | next value below _ ih => exact List.forall_mem_cons.2 ⟨h.isRunChar_of_value value below, ih⟩
  | apart value below _ ih =>
    exact List.forall_mem_cons.2 ⟨h.isRunChar_of_value value below,
      List.forall_mem_cons.2 ⟨h.isRunChar_underscore, ih⟩⟩

/-- In a run each underscore stands between two digits. -/
theorem Run.underscoresSeparate (h : KeepsDigits base form) (run : Run base cs ds)
    (before : Bool) : underscoresSeparate before (cs.map form) = true := by
  induction run generalizing before with
  | last value below =>
    simp [Number.underscoresSeparate, h.ne_underscore value below]
  | next value below _ ih =>
    simp [Number.underscoresSeparate, h.ne_underscore value below, ih]
  | apart value below _ ih =>
    simp [Number.underscoresSeparate, h.ne_underscore value below, (h.underscore '_').2 rfl, ih]

theorem Run.values (h : KeepsDigits base form) (run : Run base cs ds) :
    (cs.map form).filterMap (digitBelow? base) = ds := by
  induction run with
  | last value below => simp [(h.digit _ _).2 ⟨value, below⟩]
  | next value below _ ih => simp [(h.digit _ _).2 ⟨value, below⟩, ih]
  | apart value below _ ih =>
    have hnone : digitBelow? base '_' = none := rfl
    simp [(h.digit _ _).2 ⟨value, below⟩, (h.underscore '_').2 rfl, hnone, ih]

/-- What may follow a digit in a run. -/
inductive Follows (base : ℕ) : List Char → List ℕ → Prop
  | nothing : Follows base [] []
  | digits {cs : List Char} {ds : List ℕ} (run : Run base cs ds) : Follows base cs ds
  | apart {cs : List Char} {ds : List ℕ} (run : Run base cs ds) : Follows base ('_' :: cs) ds

theorem Follows.run (follows : Follows base cs ds) (value : HasValue c d) (below : d < base) :
    Run base (c :: cs) (d :: ds) := by
  cases follows with
  | nothing => exact .last value below
  | digits run => exact .next value below run
  | apart run => exact .apart value below run

/-- Characters for runs, with underscores between digits only, follow a digit if one came before, and
are a run if not. -/
theorem follows_of_underscoresSeparate (h : KeepsDigits base form) {before : Bool}
    (members : ∀ c ∈ cs, Number.isRunChar base (form c) = true)
    (separate : underscoresSeparate before (cs.map form) = true) :
    Follows base cs ((cs.map form).filterMap (digitBelow? base)) ∧
      (before = false → Run base cs ((cs.map form).filterMap (digitBelow? base))) := by
  induction cs generalizing before with
  | nil =>
    refine ⟨.nothing, ?_⟩
    rintro rfl
    cases separate
  | cons c cs ih =>
    have hrest : ∀ c ∈ cs, Number.isRunChar base (form c) = true :=
      fun c hc ↦ members c (List.mem_cons_of_mem _ hc)
    rw [List.map_cons, Number.underscoresSeparate] at separate
    by_cases hunderscore : form c = '_'
    · rw [if_pos hunderscore, Bool.and_eq_true] at separate
      have hnone : digitBelow? base '_' = none := rfl
      have hvalues : ((c :: cs).map form).filterMap (digitBelow? base) =
          (cs.map form).filterMap (digitBelow? base) := by
        rw [List.map_cons, hunderscore, List.filterMap_cons_none hnone]
      obtain rfl := (h.underscore c).1 hunderscore
      rw [hvalues]
      refine ⟨.apart ((ih hrest separate.2).2 rfl), ?_⟩
      rintro rfl
      cases separate.1
    · rw [if_neg hunderscore] at separate
      obtain ⟨d, hd⟩ : ∃ d, digitBelow? base (form c) = some d := by
        have hmember := members c List.mem_cons_self
        simp only [Number.isRunChar, Bool.or_eq_true, beq_iff_eq, hunderscore, false_or] at hmember
        exact Option.isSome_iff_exists.1 hmember
      obtain ⟨value, below⟩ := (h.digit c d).1 hd
      have hvalues : ((c :: cs).map form).filterMap (digitBelow? base) =
          d :: (cs.map form).filterMap (digitBelow? base) := by
        rw [List.map_cons, List.filterMap_cons_some hd]
      have hrun := (ih hrest separate).1.run value below
      rw [hvalues]
      exact ⟨.digits hrun, fun _ ↦ hrun⟩

/-- The runs are the texts of characters for runs in which underscores separate digits. -/
theorem run_iff (h : KeepsDigits base form) :
    Run base cs ds ↔ (∀ c ∈ cs, Number.isRunChar base (form c) = true) ∧
      underscoresSeparate false (cs.map form) = true ∧
      (cs.map form).filterMap (digitBelow? base) = ds := by
  constructor
  · intro run
    exact ⟨run.isRunChar h, run.underscoresSeparate h false, run.values h⟩
  · rintro ⟨members, separate, rfl⟩
    exact (follows_of_underscoresSeparate h members separate).2 rfl

end ValidatorReader.Number
