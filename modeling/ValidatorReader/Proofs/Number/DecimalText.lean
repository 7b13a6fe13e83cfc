import ValidatorReader.Proofs.Number.Decimal
import ValidatorReader.Proofs.Number.Underflow

/-!
# Texts of doubles

A double is written as a sign or none and a name or a decimal. The names are those of not-a-number and of
infinity, in letters of either case. A decimal has digits before a point, after it or both, and perhaps
an exponent. Other texts are not read.
-/

namespace ValidatorReader.Number.Binary64

variable {c m : Char} {cs rest : List Char} {ds digits : List ℕ} {d bits : ℕ} {e exponent : ℤ}

/-! ## Characters -/

theorem toNat_toLower (c : Char) :
    c.toLower.toNat = if 65 ≤ c.toNat ∧ c.toNat ≤ 90 then c.toNat + 32 else c.toNat := by
  have hval : c.val.toNat = c.toNat := rfl
  have hA : 'A'.val.toNat = 65 := rfl
  have hZ : 'Z'.val.toNat = 90 := rfl
  unfold Char.toLower
  simp only [ge_iff_le, UInt32.le_iff_toNat_le, hval, hA, hZ]
  split
  · have hoffset : (32 : UInt32).toNat = 32 := rfl
    change (c.val + 32).toNat = _
    rw [UInt32.toNat_add]
    omega
  · rfl

/-- A character whose lower case is not a small letter is its own lower case. -/
theorem toLower_eq_iff (h : m.toNat < 97 ∨ 122 < m.toNat) (hplain : m.toLower = m) :
    c.toLower = m ↔ c = m := by
  constructor
  · intro hc
    have hlower := toNat_toLower c
    rw [hc] at hlower
    split at hlower
    · omega
    · exact Char.toNat_inj.1 hlower.symm
  · rintro rfl
    exact hplain

theorem toLower_eq_e_iff : c.toLower = 'e' ↔ c = 'e' ∨ c = 'E' := by
  have he : 'e'.toNat = 101 := rfl
  have hE : 'E'.toNat = 69 := rfl
  simp only [← Char.toNat_inj, toNat_toLower]
  split <;> omega

theorem digitBelow?_ten (c : Char) :
    digitBelow? 10 c = if 48 ≤ c.toNat ∧ c.toNat ≤ 57 then some (c.toNat - 48) else none := by
  simp only [digitBelow?, Bytes.hexValue?, Bool.and_eq_true, decide_eq_true_eq]
  split
  · rw [Option.filter_some, if_pos]
    rw [decide_eq_true_eq]
    omega
  split
  · rw [Option.filter_some, if_neg]
    rw [decide_eq_true_eq]
    omega
  split
  · rw [Option.filter_some, if_neg]
    rw [decide_eq_true_eq]
    omega
  · rfl

theorem digitBelow?_toLower (c : Char) : digitBelow? 10 c.toLower = digitBelow? 10 c := by
  rw [digitBelow?_ten, digitBelow?_ten, toNat_toLower]
  split
  · rw [if_neg (by omega), if_neg (by omega)]
  · rfl

/-- A character that is neither a space nor a figure is the normal form of what has it as its lower
case. -/
theorem normalChar_eq_iff (hascii : m.toNat < 0x80) (hspace : m ≠ ' ') (hfigure : m.isDigit = false) :
    normalChar c = m ↔ c.toLower = m := by
  by_cases hc : c.toNat < 0x80
  · rw [normalChar, asciiForm, if_pos hc]
  have hlower : c.toLower = c := by
    rw [← Char.toNat_inj, toNat_toLower, if_neg (by omega)]
  have hne : c ≠ m := by
    rintro rfl
    exact hc hascii
  rw [hlower]
  refine iff_of_false ?_ hne
  rw [normalChar, asciiForm, if_neg hc]
  split
  · exact hspace.symm
  split
  · rename_i k hvalue
    have hfigures : ∀ n < 10, (Bytes.hexDigit n).toLower.isDigit = true := by decide
    rintro rfl
    rw [hfigures k (Text.digitValue?_lt hvalue)] at hfigure
    cases hfigure
  · rwa [hlower]

theorem keepsDigits_normalChar : KeepsDigits 10 normalChar where
  digit c d := by
    rw [normalChar, digitBelow?_toLower]
    exact (keepsDigits_asciiForm 10).digit c d
  underscore c :=
    (normalChar_eq_iff (by decide) (by decide) rfl).trans (toLower_eq_iff (by decide) rfl)

theorem keepsSigns_normalChar : KeepsSigns normalChar where
  minus _ := (normalChar_eq_iff (by decide) (by decide) rfl).trans (toLower_eq_iff (by decide) rfl)
  plus _ := (normalChar_eq_iff (by decide) (by decide) rfl).trans (toLower_eq_iff (by decide) rfl)

theorem normalChar_eq_point_iff : normalChar c = '.' ↔ c = '.' :=
  (normalChar_eq_iff (by decide) (by decide) rfl).trans (toLower_eq_iff (by decide) rfl)

theorem normalChar_eq_e_iff : normalChar c = 'e' ↔ c = 'e' ∨ c = 'E' :=
  (normalChar_eq_iff (by decide) (by decide) rfl).trans toLower_eq_e_iff

/-! ## The grammar -/

/-- A run of decimal digits or nothing, with the values of the digits. -/
inductive Digits : List Char → List ℕ → Prop
  | none : Digits [] []
  | run {cs : List Char} {ds : List ℕ} (run : Run 10 cs ds) : Digits cs ds

/-- What may follow the whole part of a decimal: a point and the digits of the fraction. -/
inductive Point : List Char → List ℕ → Prop
  | absent : Point [] []
  | point {cs : List Char} {ds : List ℕ} (digits : Digits cs ds) : Point ('.' :: cs) ds

/-- What may follow the digits of a decimal: a mark and the exponent. -/
inductive Power : List Char → ℤ → Prop
  | absent : Power [] 0
  | power {mark : Char} {sign cs : List Char} {negative : Bool} {ds : List ℕ}
    (letter : mark = 'e' ∨ mark = 'E') (hsign : Sign sign negative) (run : Run 10 cs ds) :
    Power (mark :: (sign ++ cs)) (signed negative (Nat.ofDigits 10 ds.reverse))

/-- The unsigned decimals, with their digits and the power of ten that the last digit stands for. -/
inductive Decimal : List Char → List ℕ → ℤ → Prop
  | intro {whole point power : List Char} {ds fraction : List ℕ} {e : ℤ} (hwhole : Digits whole ds)
    (hpoint : Point point fraction) (hpower : Power power e) (hsome : ds ++ fraction ≠ []) :
    Decimal (whole ++ (point ++ power)) (ds ++ fraction) (e - fraction.length)

/-! ## Runs of digits -/

/-- A run goes as far as there are digits and underscores. -/
theorem takeRun_eq (cs : List Char) :
    takeRun cs = (cs.takeWhile (isRunChar 10), cs.dropWhile (isRunChar 10)) := by
  have hchar : (fun c : Char ↦ c.isDigit || c == '_') = isRunChar 10 := by
    funext c
    have hdigit : c.isDigit = (digitBelow? 10 c).isSome := by
      rw [Bool.eq_iff_iff, isDigit_iff, digitBelow?_ten]
      split <;> simp_all
    rw [hdigit, Bool.or_comm, isRunChar]
  rw [takeRun, hchar, List.span_eq_takeWhile_dropWhile]

/-- Whether a text does not go on with a digit or an underscore. -/
def EndsRun (cs : List Char) : Prop :=
  ∀ c ∈ cs.head?, isRunChar 10 (normalChar c) = false

theorem Digits.forall_mem (h : Digits cs ds) : ∀ c ∈ cs, isRunChar 10 (normalChar c) = true := by
  cases h with
  | none => exact List.forall_mem_nil _
  | run run => exact run.isRunChar keepsDigits_normalChar

/-- Digits are taken whole if what follows cannot go on with them. -/
theorem Digits.takeRun_append (h : Digits cs ds) (hends : EndsRun rest) :
    takeRun ((cs ++ rest).map normalChar) = (cs.map normalChar, rest.map normalChar) := by
  have hmembers : ∀ c ∈ cs.map normalChar, isRunChar 10 c = true := by
    simpa using h.forall_mem
  have hnone (hpos : 0 < (rest.map normalChar).length) :
      ¬ isRunChar 10 (rest.map normalChar)[0] = true := by
    obtain ⟨c, rest, rfl⟩ := List.exists_cons_of_length_pos (List.length_map normalChar ▸ hpos)
    exact Bool.eq_false_iff.1 (hends c rfl)
  rw [takeRun_eq, List.map_append, List.takeWhile_append_of_pos hmembers,
    List.dropWhile_append_of_pos hmembers, List.takeWhile_eq_nil_iff.2 hnone,
    List.dropWhile_eq_self_iff.2 hnone, List.append_nil]

/-- Every text is a run of characters for runs, and something else that ends the run. -/
theorem exists_takeRun (cs : List Char) :
    ∃ run rest, cs = run ++ rest ∧ (∀ c ∈ run, isRunChar 10 (normalChar c) = true) ∧ EndsRun rest ∧
      takeRun (cs.map normalChar) = (run.map normalChar, rest.map normalChar) := by
  refine ⟨cs.takeWhile (isRunChar 10 ∘ normalChar), cs.dropWhile (isRunChar 10 ∘ normalChar),
    List.takeWhile_append_dropWhile.symm, fun c hc ↦ ?_, fun c hc ↦ ?_, ?_⟩
  · exact (List.mem_takeWhile_imp hc : (isRunChar 10 ∘ normalChar) c = true)
  · have hnot := List.head?_dropWhile_not (isRunChar 10 ∘ normalChar) cs
    rw [Option.mem_def.1 hc] at hnot
    exact hnot
  · rw [takeRun_eq, List.takeWhile_map, List.dropWhile_map]

/-- A run that is taken has digits exactly if its underscores separate them. -/
theorem runDigits?_eq_some_iff (hmembers : ∀ c ∈ cs, isRunChar 10 (normalChar c) = true) :
    runDigits? (cs.map normalChar) = some ds ↔ Digits cs ds := by
  unfold runDigits?
  constructor
  · intro h
    obtain ⟨hplaced, hvalues⟩ := Option.ite_none_right_eq_some.1 h
    have hvalues : (cs.map normalChar).filterMap (digitBelow? 10) = ds := Option.some.inj hvalues
    rcases (Bool.or_eq_true _ _).mp hplaced with hempty | hseparate
    · obtain rfl : cs = [] := by simpa using hempty
      rw [← hvalues]
      exact .none
    · exact .run ((run_iff keepsDigits_normalChar).2 ⟨hmembers, hseparate, hvalues⟩)
  · intro h
    cases h with
    | none => rfl
    | run run =>
      rw [run.underscoresSeparate keepsDigits_normalChar, run.values keepsDigits_normalChar,
        Bool.or_true, if_pos rfl]

theorem Point.endsRun (h : Point cs ds) (hrest : EndsRun rest) : EndsRun (cs ++ rest) := by
  cases h with
  | absent => exact hrest
  | point _ =>
    rintro c ⟨⟩
    rfl

theorem Power.endsRun (h : Power cs e) : EndsRun cs := by
  cases h with
  | absent =>
    rintro c ⟨⟩
  | power letter _ _ =>
    rintro c ⟨⟩
    rcases letter with rfl | rfl <;> rfl

/-! ## Exponents -/

theorem readExponent?_cons (cs : List Char) :
    readExponent? ('e' :: cs) =
      if (takeRun (takeSign cs).2).1.isEmpty || !(takeRun (takeSign cs).2).2.isEmpty then none
      else (runDigits? (takeRun (takeSign cs).2).1).map fun digits ↦
        signed (takeSign cs).1 (Number.ofDigits 10 digits) := rfl

theorem readExponent?_of_ne (h : c ≠ 'e') (cs : List Char) : readExponent? (c :: cs) = none := by
  unfold readExponent?
  split
  · rename_i heq
    cases heq
  · rename_i heq
    exact absurd (List.cons.inj heq).1 h
  · rfl

theorem endsRun_nil : EndsRun [] := by
  rintro c ⟨⟩

/-- Behind the letter stand a sign or none and a run, and nothing else. -/
theorem readExponent?_letter :
    readExponent? ('e' :: cs.map normalChar) = some e ↔
      ∃ sign negative run ds, Sign sign negative ∧ Run 10 run ds ∧ cs = sign ++ run ∧
        signed negative (Nat.ofDigits 10 ds.reverse) = e := by
  rw [readExponent?_cons, takeSign_map keepsSigns_normalChar]
  constructor
  · intro h
    obtain ⟨sign, hsign, hcs⟩ := exists_sign cs
    obtain ⟨run, rest, hrun, hmembers, -, htake⟩ := exists_takeRun (takeSign cs).2
    rw [htake] at h
    obtain ⟨hwhole, hvalue⟩ := Option.ite_none_left_eq_some.1 h
    obtain ⟨ds, hds, rfl⟩ := Option.map_eq_some_iff.1 hvalue
    simp only [Bool.or_eq_true, List.isEmpty_iff, List.map_eq_nil_iff, Bool.not_eq_true',
      List.isEmpty_eq_false_iff, not_or, not_not] at hwhole
    obtain ⟨hne, rfl⟩ := hwhole
    rw [List.append_nil] at hrun
    rw [hrun] at hcs
    cases (runDigits?_eq_some_iff hmembers).1 hds with
    | none => exact absurd rfl hne
    | run run' => exact ⟨sign, _, run, ds, hsign, run', hcs, by rw [ofDigits_eq]⟩
  · rintro ⟨sign, negative, run, ds, hsign, run', rfl, rfl⟩
    have htake := (Digits.run run').takeRun_append endsRun_nil
    rw [List.append_nil] at htake
    obtain ⟨c, rest, _, _, rfl, _, _, _⟩ := run'.exists_cons
    rw [hsign.takeSign_append run'.startsPlain, htake,
      (runDigits?_eq_some_iff (Digits.run run').forall_mem).2 (.run run'), if_neg (by simp),
      Option.map_some, ofDigits_eq]

/-- An exponent is read exactly if it is one, or there is none. -/
theorem readExponent?_eq_some_iff :
    readExponent? (cs.map normalChar) = some e ↔ Power cs e := by
  constructor
  · intro h
    cases cs with
    | nil =>
      obtain rfl : 0 = e := Option.some.inj h
      exact .absent
    | cons c cs =>
      rw [List.map_cons] at h
      by_cases hletter : normalChar c = 'e'
      · rw [hletter] at h
        obtain ⟨sign, negative, run, ds, hsign, run', rfl, rfl⟩ := readExponent?_letter.1 h
        exact .power (normalChar_eq_e_iff.1 hletter) hsign run'
      · cases (readExponent?_of_ne hletter _).symm.trans h
  · intro h
    cases h with
    | absent => rfl
    | power letter hsign run =>
      rw [List.map_cons, normalChar_eq_e_iff.2 letter]
      exact readExponent?_letter.2 ⟨_, _, _, _, hsign, run, rfl, rfl⟩

/-! ## Decimals -/

/-- Takes a point and the digits after it from the front. -/
def takePoint : List Char → List Char × List Char
  | '.' :: rest => takeRun rest
  | rest => ([], rest)

theorem takePoint_of_ne (h : ∀ c ∈ cs.head?, c ≠ '.') : takePoint cs = ([], cs) := by
  unfold takePoint
  split
  · exact absurd rfl (h '.' rfl)
  · rfl

theorem readMagnitude?_eq (cs : List Char) :
    readMagnitude? cs =
      (runDigits? (takeRun cs).1).bind fun whole ↦
        (runDigits? (takePoint (takeRun cs).2).1).bind fun fraction ↦
          (readExponent? (takePoint (takeRun cs).2).2).bind fun e ↦
            if (whole ++ fraction).isEmpty then none
            else some (magnitudeOfDecimal (whole ++ fraction) (e - fraction.length)) := rfl

/-- A point and its digits are taken from every text, if there is a point. -/
theorem exists_takePoint (cs : List Char) :
    ∃ point run rest : List Char, cs = point ++ rest ∧
      takePoint (cs.map normalChar) = (run.map normalChar, rest.map normalChar) ∧
      ∀ ds, runDigits? (run.map normalChar) = some ds → Point point ds := by
  have habsent (h : ∀ c ∈ (cs.map normalChar).head?, c ≠ '.') :
      ∃ point run rest : List Char, cs = point ++ rest ∧
        takePoint (cs.map normalChar) = (run.map normalChar, rest.map normalChar) ∧
        ∀ ds, runDigits? (run.map normalChar) = some ds → Point point ds := by
    refine ⟨[], [], cs, rfl, takePoint_of_ne h, fun ds hds ↦ ?_⟩
    obtain rfl : [] = ds := Option.some.inj hds
    exact .absent
  cases cs with
  | nil => exact habsent (by simp)
  | cons c cs =>
    by_cases hc : normalChar c = '.'
    · obtain rfl := normalChar_eq_point_iff.1 hc
      obtain ⟨run, rest, rfl, hmembers, -, htake⟩ := exists_takeRun cs
      exact ⟨'.' :: run, run, rest, rfl, htake,
        fun ds hds ↦ .point ((runDigits?_eq_some_iff hmembers).1 hds)⟩
    · exact habsent (by simpa using hc)

theorem Power.head?_ne_point (h : Power cs e) : ∀ c ∈ (cs.map normalChar).head?, c ≠ '.' := by
  cases h with
  | absent =>
    rintro c ⟨⟩
  | power letter _ _ =>
    rintro c ⟨⟩
    rcases letter with rfl | rfl <;> decide

theorem Point.takePoint_append (h : Point cs ds) (hpower : Power rest e) :
    ∃ run, takePoint ((cs ++ rest).map normalChar) = (run, rest.map normalChar) ∧
      runDigits? run = some ds := by
  cases h with
  | absent => exact ⟨[], takePoint_of_ne hpower.head?_ne_point, rfl⟩
  | point digits =>
    exact ⟨_, digits.takeRun_append hpower.endsRun,
      (runDigits?_eq_some_iff digits.forall_mem).2 digits⟩

/-- The decimals are read, each as the nearest double, and no other texts are. -/
theorem readMagnitude?_eq_some_iff :
    readMagnitude? (cs.map normalChar) = some bits ↔
      ∃ digits exponent, Decimal cs digits exponent ∧ magnitudeOfDecimal digits exponent = bits := by
  rw [readMagnitude?_eq]
  constructor
  · intro h
    obtain ⟨run, rest, rfl, hmembers, -, htake⟩ := exists_takeRun cs
    obtain ⟨point, fraction, power, rfl, htakePoint, hpoint⟩ := exists_takePoint rest
    rw [htake, htakePoint] at h
    obtain ⟨ds, hds, h⟩ := Option.bind_eq_some_iff.1 h
    obtain ⟨fs, hfs, h⟩ := Option.bind_eq_some_iff.1 h
    obtain ⟨e, he, h⟩ := Option.bind_eq_some_iff.1 h
    obtain ⟨hsome, hbits⟩ := Option.ite_none_left_eq_some.1 h
    exact ⟨_, _, .intro ((runDigits?_eq_some_iff hmembers).1 hds) (hpoint fs hfs)
      (readExponent?_eq_some_iff.1 he) (by simpa using hsome), Option.some.inj hbits⟩
  · rintro ⟨digits, exponent, decimal, rfl⟩
    cases decimal with
    | @intro whole point power ds fraction e hwhole hpoint hpower hsome =>
      obtain ⟨run, htakePoint, hfraction⟩ := hpoint.takePoint_append hpower
      rw [hwhole.takeRun_append (hpoint.endsRun hpower.endsRun), htakePoint]
      simp only [(runDigits?_eq_some_iff hwhole.forall_mem).2 hwhole, hfraction,
        readExponent?_eq_some_iff.2 hpower, Option.bind_some]
      rw [if_neg (by simpa using hsome)]

/-- Every digit of a decimal is below ten. -/
theorem Decimal.lt_ten (h : Decimal cs digits exponent) : ∀ d ∈ digits, d < 10 := by
  have hdigits {cs : List Char} {ds : List ℕ} (h : Digits cs ds) : ∀ d ∈ ds, d < 10 := by
    cases h with
    | none => exact List.forall_mem_nil _
    | run run => exact run.lt_base
  cases h with
  | intro hwhole hpoint hpower hsome =>
    refine List.forall_mem_append.2 ⟨hdigits hwhole, ?_⟩
    cases hpoint with
    | absent => exact List.forall_mem_nil _
    | point digits => exact hdigits digits

theorem readMagnitude?_sign (cs : List Char) :
    readMagnitude? ('-' :: cs) = none ∧ readMagnitude? ('+' :: cs) = none := ⟨rfl, rfl⟩

/-- No decimal begins with a sign. -/
theorem Decimal.startsPlain (h : Decimal cs digits exponent) : ∀ c ∈ cs.head?, c ≠ '-' ∧ c ≠ '+' := by
  have hread := readMagnitude?_eq_some_iff.2 ⟨_, _, h, rfl⟩
  intro c hc
  obtain ⟨rest, rfl⟩ := List.head?_eq_some_iff.1 hc
  rw [List.map_cons] at hread
  constructor
  · rintro rfl
    cases (readMagnitude?_sign _).1.symm.trans hread
  · rintro rfl
    cases (readMagnitude?_sign _).2.symm.trans hread

/-! ## Names -/

/-- Whether a text is a name in letters of either case. -/
def Names (name : String) (cs : List Char) : Prop :=
  cs.map Char.toLower = name.toList

instance (name : String) (cs : List Char) : Decidable (Names name cs) :=
  inferInstanceAs (Decidable (_ = _))

/-- Whether all characters of a name are kept by the normal form of characters only. -/
def isPlainName (name : List Char) : Bool :=
  name.all fun m ↦ decide (m.toNat < 0x80) && m != ' ' && !m.isDigit

theorem map_normalChar_eq_iff {name : List Char} (h : isPlainName name = true) :
    cs.map normalChar = name ↔ cs.map Char.toLower = name := by
  induction name generalizing cs with
  | nil => rw [List.map_eq_nil_iff, List.map_eq_nil_iff]
  | cons m name ih =>
    simp only [isPlainName, List.all_cons, Bool.and_eq_true, decide_eq_true_eq, bne_iff_ne,
      Bool.not_eq_true'] at h
    obtain ⟨⟨⟨hascii, hspace⟩, hfigure⟩, hname⟩ := h
    cases cs with
    | nil => exact Iff.rfl
    | cons c cs =>
      rw [List.map_cons, List.map_cons, List.cons_eq_cons, List.cons_eq_cons,
        normalChar_eq_iff hascii hspace hfigure, ih hname]

theorem names_iff {name : String} (h : isPlainName name.toList = true) :
    String.ofList (cs.map normalChar) = name ↔ Names name cs := by
  rw [Names, ← map_normalChar_eq_iff h]
  constructor
  · rintro rfl
    exact String.toList_ofList.symm
  · intro heq
    rw [heq, String.ofList_toList]

theorem Names.startsPlain {name : String} (h : Names name cs)
    (hname : ∀ m ∈ name.toList.head?, m ≠ '-' ∧ m ≠ '+') : ∀ c ∈ cs.head?, c ≠ '-' ∧ c ≠ '+' := by
  intro c hc
  have hhead : c.toLower ∈ name.toList.head? := by
    rw [← h, List.head?_map, Option.mem_def.1 hc]
    rfl
  constructor
  · rintro rfl
    exact (hname _ hhead).1 rfl
  · rintro rfl
    exact (hname _ hhead).2 rfl

/-! ## Texts -/

/-- The texts of doubles. -/
inductive Spells : List Char → Binary64 → Prop
  | nan {sign cs : List Char} {negative : Bool} (hsign : Sign sign negative) (names : Names "nan" cs) :
    Spells (sign ++ cs) nan
  | infinity {sign cs : List Char} {negative : Bool} (hsign : Sign sign negative)
    (names : Names "inf" cs ∨ Names "infinity" cs) :
    Spells (sign ++ cs) (number negative infinityBits)
  | decimal {sign cs : List Char} {negative : Bool} {digits : List ℕ} {exponent : ℤ}
    (hsign : Sign sign negative) (decimal : Decimal cs digits exponent) :
    Spells (sign ++ cs) (number negative (magnitudeOfDecimal digits exponent))

/-- Names of special values are looked for first; what is no name is read as a decimal. -/
theorem ofText?_eq {text : String} :
    ofText? text =
      if Names "nan" (takeSign text.toList).2 then some nan
      else if Names "inf" (takeSign text.toList).2 ∨ Names "infinity" (takeSign text.toList).2 then
        some (number (takeSign text.toList).1 infinityBits)
      else (readMagnitude? ((takeSign text.toList).2.map normalChar)).map
        (number (takeSign text.toList).1) := by
  rw [ofText?, takeSign_map keepsSigns_normalChar]
  simp only [names_iff (show isPlainName "nan".toList = true from rfl),
    names_iff (show isPlainName "inf".toList = true from rfl),
    names_iff (show isPlainName "infinity".toList = true from rfl)]

theorem Decimal.not_names {name : String} (h : Decimal cs digits exponent)
    (hplain : isPlainName name.toList = true) (hnone : readMagnitude? name.toList = none) :
    ¬ Names name cs := by
  intro names
  have hread := readMagnitude?_eq_some_iff.2 ⟨_, _, h, rfl⟩
  rw [(map_normalChar_eq_iff hplain).2 names, hnone] at hread
  cases hread

/-- The texts of doubles are read, and no others are. -/
theorem ofText?_eq_some_iff {text : String} {x : Binary64} :
    ofText? text = some x ↔ Spells text.toList x := by
  constructor
  · intro h
    obtain ⟨sign, hsign, htext⟩ := exists_sign text.toList
    rw [ofText?_eq] at h
    generalize takeSign text.toList = taken at h hsign htext
    rw [htext]
    split at h
    · obtain rfl := Option.some.inj h
      exact .nan hsign ‹_›
    split at h
    · obtain rfl := Option.some.inj h
      exact .infinity hsign ‹_›
    · obtain ⟨bits, hbits, rfl⟩ := Option.map_eq_some_iff.1 h
      obtain ⟨digits, exponent, decimal, rfl⟩ := readMagnitude?_eq_some_iff.1 hbits
      exact .decimal hsign decimal
  · intro h
    rw [ofText?_eq]
    generalize text.toList = cs at h
    cases h with
    | nan hsign names =>
      rw [hsign.takeSign_append (names.startsPlain (by simp)), if_pos names]
    | @infinity sign cs negative hsign names =>
      have hplain : ∀ c ∈ cs.head?, c ≠ '-' ∧ c ≠ '+' := by
        rcases names with names | names
        · exact names.startsPlain (by simp)
        · exact names.startsPlain (by simp)
      have hnan : ¬ Names "nan" cs := by
        rcases names with names | names
        · rw [Names, names]
          decide
        · rw [Names, names]
          decide
      rw [hsign.takeSign_append hplain, if_neg hnan, if_pos names]
    | decimal hsign decimal =>
      rw [hsign.takeSign_append decimal.startsPlain, if_neg (decimal.not_names rfl rfl),
        if_neg (not_or.2 ⟨decimal.not_names rfl rfl, decimal.not_names rfl rfl⟩),
        readMagnitude?_eq_some_iff.2 ⟨_, _, decimal, rfl⟩, Option.map_some]

end ValidatorReader.Number.Binary64
