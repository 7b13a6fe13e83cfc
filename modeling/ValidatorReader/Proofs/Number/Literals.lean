import ValidatorReader.Proofs.Number.Digits

/-!
# Integer literals

A literal is a sign or none, and a decimal run or a zero with the mark of another base and a run in that
base, with white space around. Only the numeral of zero begins with a zero where there is no mark. The
reader of literals accepts these texts and no others, and gives the number that the digits denote.
-/

namespace ValidatorReader.Number

variable {base n : ℕ} {z : ℤ} {c : Char} {cs body marked sign : List Char} {ds : List ℕ}
  {negative : Bool}

/-! ## White space -/

/-- The white space of Unicode: all blanks but the four information separators. -/
def IsWhitespace (c : Char) : Prop :=
  Text.isBlank c = true ∧ (c.toNat < 0x1c ∨ 0x1f < c.toNat)

/-- Blanks of all alphabets become ASCII blanks, and nothing else does. -/
theorem isAsciiBlank_asciiForm : Text.isAsciiBlank (asciiForm c) = true ↔ IsWhitespace c := by
  unfold IsWhitespace
  by_cases hc : c.toNat < 0x80
  · rw [asciiForm, if_pos hc]
    simp only [Text.isAsciiBlank, Text.isBlank, Bool.or_eq_true, Bool.and_eq_true, decide_eq_true_eq,
      beq_iff_eq]
    omega
  rw [asciiForm, if_neg hc]
  by_cases hblank : Text.isBlank c = true
  · have hspace : Text.isAsciiBlank ' ' = true := rfl
    simp only [hblank, if_true, hspace, true_and, true_iff]
    omega
  rw [if_neg hblank]
  refine iff_of_false ?_ fun h ↦ hblank h.1
  rw [Bool.not_eq_true]
  split
  · rename_i e hvalue
    exact Bytes.isAsciiBlank_hexDigit e ((Text.digitValue?_lt hvalue).trans (by decide))
  · simp only [Text.isAsciiBlank, Bool.or_eq_false_iff, beq_eq_false_iff_ne, Bool.and_eq_false_iff,
      decide_eq_false_iff_not]
    omega

theorem HasValue.not_isWhitespace {d : ℕ} (value : HasValue c d) : ¬ IsWhitespace c := by
  rw [← isAsciiBlank_asciiForm, Bool.not_eq_true]
  apply Bytes.isAsciiBlank_eq_false_of_isSome_hexValue?
  rw [hexValue?_asciiForm.2 value]
  rfl

/-! ## The grammar -/

/-- The base that a mark behind a zero stands for. -/
inductive Mark : Char → ℕ → Prop
  | hexadecimal {mark : Char} (letter : mark = 'x' ∨ mark = 'X') : Mark mark 16
  | octal {mark : Char} (letter : mark = 'o' ∨ mark = 'O') : Mark mark 8
  | binary {mark : Char} (letter : mark = 'b' ∨ mark = 'B') : Mark mark 2

/-- The unsigned literals and their numbers. -/
inductive Magnitude : List Char → ℕ → Prop
  | decimal {cs : List Char} {ds : List ℕ} (run : Run 10 cs ds) (short : ds.length ≤ maxDigits)
    (plain : ds.head? = some 0 → Nat.ofDigits 10 ds.reverse = 0) :
    Magnitude cs (Nat.ofDigits 10 ds.reverse)
  | marked {zero letter : Char} {base : ℕ} {cs : List Char} {ds : List ℕ}
    (figure : Text.digitValue? zero = some 0) (mark : Mark letter base) (run : Run base cs ds) :
    Magnitude (zero :: letter :: cs) (Nat.ofDigits base ds.reverse)
  | markedApart {zero letter : Char} {base : ℕ} {cs : List Char} {ds : List ℕ}
    (figure : Text.digitValue? zero = some 0) (mark : Mark letter base) (run : Run base cs ds) :
    Magnitude (zero :: letter :: '_' :: cs) (Nat.ofDigits base ds.reverse)

/-- The literals and the integers that they denote. -/
inductive Literal : List Char → ℤ → Prop
  | intro {before sign body after : List Char} {negative : Bool} {n : ℕ}
    (hbefore : ∀ c ∈ before, IsWhitespace c) (hsign : Sign sign negative) (hbody : Magnitude body n)
    (hafter : ∀ c ∈ after, IsWhitespace c) :
    Literal (before ++ sign ++ body ++ after) (signed negative n)

/-! ## Runs in front of white space -/

/-- No run goes on over a blank. -/
theorem isRunChar_eq_false_of_isWhitespace (h : IsWhitespace c) :
    isRunChar base (asciiForm c) = false := by
  have hunderscore : asciiForm c ≠ '_' := by
    rw [Ne, asciiForm_eq_iff (by decide) (by decide) (by decide)]
    rintro rfl
    exact absurd h.1 (by decide)
  have hnone : digitBelow? base (asciiForm c) = none := by
    rw [Option.eq_none_iff_forall_ne_some]
    intro d hd
    exact ((keepsDigits_asciiForm base).digit c d).1 hd |>.1.not_isWhitespace h
  simp [isRunChar, hunderscore, hnone]

theorem digitRun?_eq (base : ℕ) (cs : List Char) :
    digitRun? base cs =
      if underscoresSeparate false (cs.takeWhile (isRunChar base)) then
        some ((cs.takeWhile (isRunChar base)).filterMap (digitBelow? base),
          cs.dropWhile (isRunChar base))
      else none := rfl

/-- Digits that only white space follows are read as a run. -/
theorem exists_digitRun?_iff :
    (∃ rest, digitRun? base (cs.map asciiForm) = some (ds, rest) ∧
        rest.all Text.isAsciiBlank = true) ↔
      ∃ run after, cs = run ++ after ∧ Run base run ds ∧ ∀ c ∈ after, IsWhitespace c := by
  have hkeeps := keepsDigits_asciiForm base
  have hblank (after : List Char) : (after.map asciiForm).all Text.isAsciiBlank = true ↔
      ∀ c ∈ after, IsWhitespace c := by
    rw [List.all_map, List.all_eq_true]
    exact forall₂_congr fun c _ ↦ isAsciiBlank_asciiForm
  simp only [digitRun?_eq, List.takeWhile_map, List.dropWhile_map, Option.ite_none_right_eq_some,
    Option.some_inj, Prod.mk.injEq]
  constructor
  · rintro ⟨rest, ⟨separate, values, rfl⟩, hafter⟩
    refine ⟨_, _, (List.takeWhile_append_dropWhile).symm, (run_iff hkeeps).2 ⟨?_, separate, values⟩,
      (hblank _).1 hafter⟩
    intro c hc
    exact (List.mem_takeWhile_imp hc : (isRunChar base ∘ asciiForm) c = true)
  · rintro ⟨run, after, rfl, hrun, hafter⟩
    have hnone (hpos : 0 < after.length) : ¬ (isRunChar base ∘ asciiForm) after[0] = true := by
      rw [Function.comp_apply, isRunChar_eq_false_of_isWhitespace (hafter _ (List.getElem_mem hpos))]
      exact Bool.false_ne_true
    have hmembers : ∀ c ∈ run, (isRunChar base ∘ asciiForm) c = true := hrun.isRunChar hkeeps
    have htake : (run ++ after).takeWhile (isRunChar base ∘ asciiForm) = run := by
      rw [List.takeWhile_append_of_pos hmembers, List.takeWhile_eq_nil_iff.2 hnone, List.append_nil]
    have hdrop : (run ++ after).dropWhile (isRunChar base ∘ asciiForm) = after := by
      rw [List.dropWhile_append_of_pos hmembers, List.dropWhile_eq_self_iff.2 hnone]
    rw [htake, hdrop]
    exact ⟨_, ⟨hrun.underscoresSeparate hkeeps false, hrun.values hkeeps, rfl⟩, (hblank _).2 hafter⟩

/-! ## Marks -/

/-- The zeros of all alphabets become the ASCII zero. -/
theorem asciiForm_eq_zero_iff : asciiForm c = '0' ↔ Text.digitValue? c = some 0 := by
  have hzero (c : Char) : c = '0' ↔ Bytes.hexValue? c = some 0 := by
    constructor
    · rintro rfl
      rfl
    · intro h
      rw [← Char.toNat_inj]
      simp only [Bytes.hexValue?, Bool.and_eq_true, decide_eq_true_eq] at h
      have hcode : '0'.toNat = 48 := rfl
      split at h
      · have := Option.some.inj h
        omega
      split at h
      · have := Option.some.inj h
        omega
      split at h
      · have := Option.some.inj h
        omega
      · cases h
  rw [hzero, hexValue?_asciiForm]
  constructor
  · intro value
    generalize hvalue : 0 = d at value
    cases value with
    | figure figure => exact hvalue ▸ figure
    | lower => omega
    | upper => omega
  · exact .figure

/-- The letter that marks a base is itself ASCII. -/
theorem markedBase?_asciiForm : markedBase? (asciiForm c) = some base ↔ Mark c base := by
  have hx : asciiForm c = 'x' ↔ c = 'x' := asciiForm_eq_iff (by decide) (by decide) rfl
  have hX : asciiForm c = 'X' ↔ c = 'X' := asciiForm_eq_iff (by decide) (by decide) rfl
  have ho : asciiForm c = 'o' ↔ c = 'o' := asciiForm_eq_iff (by decide) (by decide) rfl
  have hO : asciiForm c = 'O' ↔ c = 'O' := asciiForm_eq_iff (by decide) (by decide) rfl
  have hb : asciiForm c = 'b' ↔ c = 'b' := asciiForm_eq_iff (by decide) (by decide) rfl
  have hB : asciiForm c = 'B' ↔ c = 'B' := asciiForm_eq_iff (by decide) (by decide) rfl
  simp only [markedBase?, hx, hX, ho, hO, hb, hB]
  constructor
  · intro h
    split at h
    · obtain rfl := Option.some.inj h
      exact .hexadecimal ‹_›
    split at h
    · obtain rfl := Option.some.inj h
      exact .octal ‹_›
    split at h
    · obtain rfl := Option.some.inj h
      exact .binary ‹_›
    · cases h
  · intro mark
    cases mark with
    | hexadecimal letter => rw [if_pos letter]
    | octal letter => rcases letter with rfl | rfl <;> decide
    | binary letter => rcases letter with rfl | rfl <;> decide

/-- The letter of a mark is neither part of a decimal run nor white space. -/
theorem Mark.endsRun (mark : Mark c base) :
    isRunChar 10 (asciiForm c) = false ∧ Text.isAsciiBlank (asciiForm c) = false := by
  cases mark with
  | hexadecimal letter => rcases letter with rfl | rfl <;> exact ⟨rfl, rfl⟩
  | octal letter => rcases letter with rfl | rfl <;> exact ⟨rfl, rfl⟩
  | binary letter => rcases letter with rfl | rfl <;> exact ⟨rfl, rfl⟩

/-- A text without an underscore at its front. -/
def withoutUnderscore : List Char → List Char
  | '_' :: cs => cs
  | cs => cs

theorem withoutUnderscore_map (cs : List Char) :
    withoutUnderscore (cs.map asciiForm) = (withoutUnderscore cs).map asciiForm := by
  have hform (c : Char) : asciiForm c = '_' ↔ c = '_' :=
    asciiForm_eq_iff (by decide) (by decide) rfl
  cases cs with
  | nil => rfl
  | cons c cs =>
    by_cases hc : c = '_'
    · subst hc
      rfl
    · have hplain (d : Char) (ds : List Char) (hd : d ≠ '_') :
          withoutUnderscore (d :: ds) = d :: ds := by
        unfold withoutUnderscore
        split
        · rename_i heq
          exact absurd (List.cons.inj heq).1 hd
        · rfl
      rw [List.map_cons, hplain _ _ (mt (hform c).1 hc), hplain _ _ hc, List.map_cons]

theorem takeMark?_zero (letter : Char) (rest : List Char) :
    takeMark? ('0' :: letter :: rest) =
      (markedBase? letter).map fun base ↦ (base, withoutUnderscore rest) := rfl

/-- A mark is a zero of any alphabet and a letter, with an underscore behind it or none. -/
theorem takeMark?_eq_some_iff :
    takeMark? (cs.map asciiForm) = some (base, marked) ↔
      ∃ zero letter rest, cs = zero :: letter :: rest ∧ Text.digitValue? zero = some 0 ∧
        Mark letter base ∧ (withoutUnderscore rest).map asciiForm = marked := by
  constructor
  · intro h
    unfold takeMark? at h
    split at h
    · rename_i letter rest hcs
      obtain ⟨zero, tail, rfl, hzero, htail⟩ := List.map_eq_cons_iff.1 hcs
      obtain ⟨mark, rest, rfl, rfl, rfl⟩ := List.map_eq_cons_iff.1 htail
      obtain ⟨_, hbase, hpair⟩ := Option.map_eq_some_iff.1 h
      obtain ⟨rfl, hmarked⟩ := Prod.mk.inj hpair
      refine ⟨zero, mark, rest, rfl, asciiForm_eq_zero_iff.1 hzero, markedBase?_asciiForm.1 hbase, ?_⟩
      rw [← withoutUnderscore_map]
      exact hmarked
    · cases h
  · rintro ⟨zero, letter, rest, rfl, figure, mark, rfl⟩
    rw [← withoutUnderscore_map, List.map_cons, List.map_cons, asciiForm_eq_zero_iff.2 figure,
      takeMark?_zero, markedBase?_asciiForm.2 mark, Option.map_some]

/-! ## Magnitudes -/

/-- A decimal run begins with a zero if its first digit is zero. -/
theorem Run.head?_eq_zero_iff (run : Run 10 cs ds) :
    ((cs ++ body).map asciiForm).head? = some '0' ↔ ds.head? = some 0 := by
  obtain ⟨c, rest, d, e, rfl, rfl, value, below⟩ := run.exists_cons
  simp only [List.cons_append, List.map_cons, List.head?_cons, Option.some_inj,
    asciiForm_eq_zero_iff]
  cases value with
  | figure figure => rw [figure, Option.some_inj]
  | lower => omega
  | upper => omega

theorem Run.withoutUnderscore_append (run : Run base cs ds) (after : List Char) :
    withoutUnderscore (cs ++ after) = cs ++ after := by
  obtain ⟨c, rest, d, e, rfl, rfl, value, below⟩ := run.exists_cons
  rw [List.cons_append, withoutUnderscore]
  intro _ hcons
  obtain ⟨rfl, -⟩ := List.cons.inj hcons
  exact (keepsDigits_asciiForm base).ne_underscore value below rfl

/-- There is no mark in a decimal run and white space. -/
theorem takeMark?_decimal (run : Run 10 cs ds) (hafter : ∀ c ∈ body, IsWhitespace c) :
    takeMark? ((cs ++ body).map asciiForm) = none := by
  rw [Option.eq_none_iff_forall_ne_some]
  rintro ⟨base, marked⟩ h
  obtain ⟨zero, letter, rest, hcs, figure, mark, rfl⟩ := takeMark?_eq_some_iff.1 h
  have hmem : letter ∈ cs ++ body := by
    rw [hcs]
    simp
  rcases List.mem_append.1 hmem with hrun | hblank
  · have hmember := run.isRunChar (keepsDigits_asciiForm 10) letter hrun
    rw [mark.endsRun.1] at hmember
    cases hmember
  · have hspace := isAsciiBlank_asciiForm.2 (hafter letter hblank)
    rw [mark.endsRun.2] at hspace
    cases hspace

/-- Behind a mark a run is read, and white space after it. -/
theorem readMagnitude?_of_mark (hmark : takeMark? cs = some (base, body.map asciiForm)) :
    readMagnitude? cs = some n ↔
      ∃ run after ds, body = run ++ after ∧ Run base run ds ∧ (∀ c ∈ after, IsWhitespace c) ∧
        Nat.ofDigits base ds.reverse = n := by
  have hread : readMagnitude? cs = some n ↔
      ∃ ds rest, digitRun? base (body.map asciiForm) = some (ds, rest) ∧
        rest.all Text.isAsciiBlank = true ∧ Nat.ofDigits base ds.reverse = n := by
    simp only [readMagnitude?, hmark, Option.bind_eq_bind, Option.bind_eq_some_iff, Prod.exists,
      Option.ite_none_right_eq_some, Option.some_inj, ofDigits_eq]
  rw [hread]
  constructor
  · rintro ⟨ds, rest, hrun, hblank, hvalue⟩
    obtain ⟨run, after, hbody, hrun, hafter⟩ := exists_digitRun?_iff.1 ⟨rest, hrun, hblank⟩
    exact ⟨run, after, ds, hbody, hrun, hafter, hvalue⟩
  · rintro ⟨run, after, ds, hbody, hrun, hafter, hvalue⟩
    obtain ⟨rest, hrun, hblank⟩ := exists_digitRun?_iff.2 ⟨run, after, hbody, hrun, hafter⟩
    exact ⟨ds, rest, hrun, hblank, hvalue⟩

/-- Without a mark a decimal run is read that is short and, unless it is a zero, begins with none. -/
theorem readMagnitude?_of_no_mark (hmark : takeMark? (cs.map asciiForm) = none) :
    readMagnitude? (cs.map asciiForm) = some n ↔
      ∃ run after ds, cs = run ++ after ∧ Run 10 run ds ∧ (∀ c ∈ after, IsWhitespace c) ∧
        ds.length ≤ maxDigits ∧ (ds.head? = some 0 → n = 0) ∧ Nat.ofDigits 10 ds.reverse = n := by
  have hread : readMagnitude? (cs.map asciiForm) = some n ↔
      ∃ ds rest, digitRun? 10 (cs.map asciiForm) = some (ds, rest) ∧
        ((ds.length ≤ maxDigits ∧
          ((cs.map asciiForm).head? = some '0' → Nat.ofDigits 10 ds.reverse = 0)) ∧
          rest.all Text.isAsciiBlank = true) ∧ Nat.ofDigits 10 ds.reverse = n := by
    simp only [readMagnitude?, hmark, Option.bind_eq_bind, Option.bind_eq_some_iff, Prod.exists,
      Option.ite_none_right_eq_some, Option.some_inj, ofDigits_eq, Bool.and_eq_true,
      decide_eq_true_eq, Bool.or_eq_true, bne_iff_ne, beq_iff_eq, ne_eq, imp_iff_not_or]
  rw [hread]
  constructor
  · rintro ⟨ds, rest, hrun, ⟨⟨hshort, hplain⟩, hblank⟩, rfl⟩
    obtain ⟨run, after, rfl, hrun, hafter⟩ := exists_digitRun?_iff.1 ⟨rest, hrun, hblank⟩
    rw [hrun.head?_eq_zero_iff] at hplain
    exact ⟨run, after, ds, rfl, hrun, hafter, hshort, hplain, rfl⟩
  · rintro ⟨run, after, ds, rfl, hrun, hafter, hshort, hplain, rfl⟩
    rw [← hrun.head?_eq_zero_iff] at hplain
    obtain ⟨rest, hrun, hblank⟩ := exists_digitRun?_iff.2 ⟨run, after, rfl, hrun, hafter⟩
    exact ⟨ds, rest, hrun, ⟨⟨hshort, hplain⟩, hblank⟩, rfl⟩

/-- A magnitude that only white space follows is read, and nothing else is. -/
theorem readMagnitude?_eq_some_iff :
    readMagnitude? (cs.map asciiForm) = some n ↔
      ∃ body after, cs = body ++ after ∧ Magnitude body n ∧ ∀ c ∈ after, IsWhitespace c := by
  constructor
  · intro h
    cases hmark : takeMark? (cs.map asciiForm) with
    | some pair =>
      obtain ⟨base, marked⟩ := pair
      obtain ⟨zero, letter, tail, rfl, figure, mark, rfl⟩ := takeMark?_eq_some_iff.1 hmark
      obtain ⟨run, after, ds, htail, hrun, hafter, rfl⟩ := (readMagnitude?_of_mark hmark).1 h
      unfold withoutUnderscore at htail
      split at htail
      · exact ⟨zero :: letter :: '_' :: run, after, by rw [htail]; rfl,
          .markedApart figure mark hrun, hafter⟩
      · exact ⟨zero :: letter :: run, after, by rw [htail]; rfl, .marked figure mark hrun, hafter⟩
    | none =>
      obtain ⟨run, after, ds, rfl, hrun, hafter, short, plain, rfl⟩ :=
        (readMagnitude?_of_no_mark hmark).1 h
      exact ⟨run, after, rfl, .decimal hrun short plain, hafter⟩
  · rintro ⟨body, after, rfl, magnitude, hafter⟩
    cases magnitude with
    | decimal run short plain =>
      exact (readMagnitude?_of_no_mark (takeMark?_decimal run hafter)).2
        ⟨body, after, _, rfl, run, hafter, short, plain, rfl⟩
    | @marked zero letter base cs ds figure mark run =>
      have hmark : takeMark? ((zero :: letter :: cs ++ after).map asciiForm) =
          some (base, (cs ++ after).map asciiForm) := by
        refine takeMark?_eq_some_iff.2 ⟨zero, letter, cs ++ after, rfl, figure, mark, ?_⟩
        rw [run.withoutUnderscore_append]
      exact (readMagnitude?_of_mark hmark).2 ⟨cs, after, ds, rfl, run, hafter, rfl⟩
    | @markedApart zero letter base cs ds figure mark run =>
      have hmark : takeMark? ((zero :: letter :: '_' :: cs ++ after).map asciiForm) =
          some (base, (cs ++ after).map asciiForm) :=
        takeMark?_eq_some_iff.2 ⟨zero, letter, '_' :: (cs ++ after), rfl, figure, mark, rfl⟩
      exact (readMagnitude?_of_mark hmark).2 ⟨cs, after, ds, rfl, run, hafter, rfl⟩

/-! ## Signs -/

/-- Every magnitude begins with a digit. -/
theorem Magnitude.exists_cons (magnitude : Magnitude body n) :
    ∃ c rest d, body = c :: rest ∧ HasValue c d := by
  cases magnitude with
  | decimal run _ _ =>
    obtain ⟨c, rest, d, _, rfl, _, value, _⟩ := run.exists_cons
    exact ⟨c, rest, d, rfl, value⟩
  | marked figure _ _ => exact ⟨_, _, 0, rfl, .figure figure⟩
  | markedApart figure _ _ => exact ⟨_, _, 0, rfl, .figure figure⟩

theorem keepsSigns_asciiForm : KeepsSigns asciiForm where
  minus _ := asciiForm_eq_iff (by decide) (by decide) rfl
  plus _ := asciiForm_eq_iff (by decide) (by decide) rfl

/-! ## Literals -/

/-- The literals are the texts that are read, each as its number. -/
theorem readLiteral?_eq_some_iff : readLiteral? cs = some z ↔ Literal cs z := by
  have hread : readLiteral? cs =
      let signed := takeSign (cs.dropWhile (Text.isAsciiBlank ∘ asciiForm))
      (readMagnitude? (signed.2.map asciiForm)).map (Number.signed signed.1) := by
    rw [readLiteral?, List.dropWhile_map, takeSign_map keepsSigns_asciiForm]
  rw [hread, Option.map_eq_some_iff]
  constructor
  · rintro ⟨n, hn, rfl⟩
    obtain ⟨body, after, hbody, magnitude, hafter⟩ := readMagnitude?_eq_some_iff.1 hn
    obtain ⟨sign, hsign, hcs⟩ := exists_sign (cs.dropWhile (Text.isAsciiBlank ∘ asciiForm))
    have hbefore : ∀ c ∈ cs.takeWhile (Text.isAsciiBlank ∘ asciiForm), IsWhitespace c :=
      fun c hc ↦ isAsciiBlank_asciiForm.1
        (List.mem_takeWhile_imp hc : (Text.isAsciiBlank ∘ asciiForm) c = true)
    have hall : cs.takeWhile (Text.isAsciiBlank ∘ asciiForm) ++ sign ++ body ++ after = cs := by
      rw [List.append_assoc, List.append_assoc, ← hbody, ← hcs, List.takeWhile_append_dropWhile]
    have literal := Literal.intro hbefore hsign magnitude hafter
    rwa [hall] at literal
  · rintro @⟨before, sign, body, after, negative, n, hbefore, hsign, magnitude, hafter⟩
    obtain ⟨c, rest, d, rfl, value⟩ := magnitude.exists_cons
    have hblank : ∀ c ∈ before, (Text.isAsciiBlank ∘ asciiForm) c = true :=
      fun c hc ↦ isAsciiBlank_asciiForm.2 (hbefore c hc)
    have hstart : (sign ++ (c :: rest ++ after)).dropWhile (Text.isAsciiBlank ∘ asciiForm) =
        sign ++ (c :: rest ++ after) := by
      cases hsign with
      | none => exact List.dropWhile_cons_of_neg (mt isAsciiBlank_asciiForm.1 value.not_isWhitespace)
      | plus => rfl
      | minus => rfl
    have hdrop : (before ++ sign ++ (c :: rest) ++ after).dropWhile
        (Text.isAsciiBlank ∘ asciiForm) = sign ++ (c :: rest ++ after) := by
      rw [List.append_assoc, List.append_assoc, List.dropWhile_append_of_pos hblank, hstart]
    have hplain : ∀ e ∈ (c :: rest ++ after).head?, e ≠ '-' ∧ e ≠ '+' := by
      rintro e ⟨⟩
      exact value.ne_sign
    refine ⟨n, ?_, ?_⟩
    · rw [hdrop, hsign.takeSign_append hplain]
      exact readMagnitude?_eq_some_iff.2 ⟨_, _, rfl, magnitude, hafter⟩
    · rw [hdrop, hsign.takeSign_append hplain]

end ValidatorReader.Number
