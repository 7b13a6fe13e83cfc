import ValidatorReader.Number.IntegerText
import ValidatorReader.Proofs.Address.Text
import ValidatorReader.Proofs.Bytes

/-!
# The grammar of addresses

The reader of addresses fills a text up to forty characters and leaves the rest to a reader of bytes
that skips blanks. What it accepts is nevertheless exactly one to forty digits behind an optional mark,
and the address holds the number that the digits denote: a skipped blank makes one byte too few.
-/

namespace ValidatorReader

variable {cs digits : List Char} {c : Char} {bytes : List UInt8} {s : String} {a : Address}

/-! ## The number of a text -/

namespace Number

theorem ofDigits_replicate_append (base n : ℕ) (digits : List ℕ) :
    ofDigits base (List.replicate n 0 ++ digits) = ofDigits base digits := by
  induction n with
  | zero => rfl
  | succ n ih =>
    rw [← ih, List.replicate_succ, List.cons_append, ofDigits, List.foldl_cons, Nat.mul_zero]
    rfl

end Number

namespace Bytes

/-- The number that hexadecimal digits denote, the most significant digit first. -/
def hexNumber (digits : List Char) : ℕ :=
  Number.ofDigits 16 (digits.filterMap hexValue?)

/-- Zeros in front change no number. -/
theorem hexNumber_replicate_append (n : ℕ) (digits : List Char) :
    hexNumber (List.replicate n '0' ++ digits) = hexNumber digits := by
  have hzero : hexValue? '0' = some 0 := by decide
  rw [hexNumber, List.filterMap_append, List.filterMap_replicate_of_some hzero,
    Number.ofDigits_replicate_append, hexNumber]

theorem hexValue?_eq_none_of_isAsciiBlank (h : Text.isAsciiBlank c = true) :
    hexValue? c = none := by
  rw [← Option.not_isSome_iff_eq_none]
  intro hsome
  rw [isAsciiBlank_eq_false_of_isSome_hexValue? hsome] at h
  cases h

/-- The bytes of a text stand for the number that its digits denote. -/
theorem toNat_of_ofHexChars? (h : ofHexChars? cs = some bytes) : toNat bytes = hexNumber cs := by
  -- The bytes and the digits may both be read on from any number.
  have hread (init : ℕ) : bytes.foldl (fun n b ↦ 256 * n + b.toNat) init =
      (cs.filterMap hexValue?).foldl (fun n d ↦ 16 * n + d) init := by
    induction cs using ofHexChars?.induct generalizing bytes init with
    | case1 =>
      obtain rfl := Option.some.inj h
      rfl
    | case2 c hblank =>
      simp only [ofHexChars?, hblank, if_true] at h
      obtain rfl := Option.some.inj h
      simp [hexValue?_eq_none_of_isAsciiBlank hblank]
    | case3 c hblank => simp [ofHexChars?, hblank] at h
    | case4 high low rest hblank ih =>
      rw [ofHexChars?, if_pos hblank] at h
      rw [ih h, List.filterMap_cons_none (hexValue?_eq_none_of_isAsciiBlank hblank)]
    | case5 high low rest hblank ih =>
      simp only [ofHexChars?, hblank, if_false, Option.bind_eq_bind, Option.bind_eq_some_iff,
        Bool.false_eq_true, Option.pure_def, Option.some.injEq] at h
      obtain ⟨hi, hhigh, lo, hlow, tail, htail, rfl⟩ := h
      have hhi : hi < 16 := hexValue?_lt hhigh
      have hlo : lo < 16 := hexValue?_lt hlow
      have hbyte : (UInt8.ofNat (16 * hi + lo)).toNat = 16 * hi + lo :=
        UInt8.toNat_ofNat_of_lt' (Nat.lt_of_lt_of_eq (by omega : 16 * hi + lo < 256) rfl)
      have hstep : 256 * init + (16 * hi + lo) = 16 * (16 * init + hi) + lo := by omega
      rw [List.foldl_cons, hbyte, hstep, ih htail, List.filterMap_cons_some hhigh,
        List.filterMap_cons_some hlow, List.foldl_cons, List.foldl_cons]
  exact hread 0

/-- Digits in pairs are read. -/
theorem exists_ofHexChars? (hdigits : ∀ c ∈ cs, (hexValue? c).isSome = true)
    (heven : 2 ∣ cs.length) : ∃ bytes, ofHexChars? cs = some bytes := by
  induction cs using ofHexChars?.induct with
  | case1 => exact ⟨[], rfl⟩
  | case2 c hblank => exact ⟨[], by rw [ofHexChars?, if_pos hblank]⟩
  | case3 c hblank => simp at heven
  | case4 high low rest hblank ih =>
    rw [isAsciiBlank_eq_false_of_isSome_hexValue? (hdigits high (by simp))] at hblank
    cases hblank
  | case5 high low rest hblank ih =>
    obtain ⟨hi, hhigh⟩ := Option.isSome_iff_exists.1 (hdigits high (by simp))
    obtain ⟨lo, hlow⟩ := Option.isSome_iff_exists.1 (hdigits low (by simp))
    have hrest : 2 ∣ rest.length := by
      simp only [List.length_cons] at heven
      omega
    obtain ⟨tail, htail⟩ := ih (fun c hc ↦ hdigits c (by simp [hc])) hrest
    exact ⟨UInt8.ofNat (16 * hi + lo) :: tail, by simp [ofHexChars?, hblank, hhigh, hlow, htail]⟩

/-- A text that is read has no characters but digits and blanks. -/
theorem isSome_hexValue?_or_isAsciiBlank (h : ofHexChars? cs = some bytes) :
    ∀ c ∈ cs, (hexValue? c).isSome = true ∨ Text.isAsciiBlank c = true := by
  induction cs using ofHexChars?.induct generalizing bytes with
  | case1 =>
    intro c hc
    cases hc
  | case2 c hblank =>
    intro d hd
    rw [List.mem_singleton.1 hd]
    exact .inr hblank
  | case3 c hblank => simp [ofHexChars?, hblank] at h
  | case4 high low rest hblank ih =>
    rw [ofHexChars?, if_pos hblank] at h
    intro c hc
    rcases List.mem_cons.1 hc with rfl | hc
    · exact .inr hblank
    · exact ih h c hc
  | case5 high low rest hblank ih =>
    simp only [ofHexChars?, hblank, if_false, Option.bind_eq_bind, Option.bind_eq_some_iff,
      Bool.false_eq_true, Option.pure_def, Option.some.injEq] at h
    obtain ⟨_, hhigh, _, hlow, tail, htail, rfl⟩ := h
    intro c hc
    rcases List.mem_cons.1 hc with rfl | hc
    · exact .inl (Option.isSome_of_eq_some hhigh)
    · rcases List.mem_cons.1 hc with rfl | hc
      · exact .inl (Option.isSome_of_eq_some hlow)
      · exact ih htail c hc

end Bytes

/-! ## What is accepted -/

namespace Address

/-- One to forty hexadecimal digits of any case. -/
structure AreDigits (digits : List Char) : Prop where
  nonempty : digits ≠ []
  short : digits.length ≤ 40
  isSome : ∀ c ∈ digits, (Bytes.hexValue? c).isSome = true

/-- The texts that spell an address in digits: the digits with a mark in front, or without one. -/
inductive Spells (digits : List Char) : List Char → Prop
  | bare (valid : AreDigits digits) : Spells digits digits
  | marked {mark : Char} (hmark : mark = 'x' ∨ mark = 'X') (valid : AreDigits digits) :
    Spells digits ('0' :: mark :: digits)

theorem Spells.valid (h : Spells digits cs) : AreDigits digits := by
  cases h with
  | bare valid => exact valid
  | marked hmark valid => exact valid

/-- Digits have no mark, so the digits of a text are what is behind its mark. -/
theorem Spells.digitsPart_eq (h : Spells digits cs) : digitsPart cs = digits := by
  cases h with
  | bare valid =>
    unfold digitsPart
    split
    · exact absurd (valid.isSome 'x' (by simp)) (by decide)
    · exact absurd (valid.isSome 'X' (by simp)) (by decide)
    · rfl
  | marked hmark valid => rcases hmark with rfl | rfl <;> rfl

theorem spells_digitsPart (h : AreDigits (digitsPart cs)) : Spells (digitsPart cs) cs := by
  unfold digitsPart at h ⊢
  split at h
  · exact .marked (.inl rfl) h
  · exact .marked (.inr rfl) h
  · exact .bare h

/-- The digits of a text with zeros in front up to forty characters. -/
def filled (digits : List Char) : List Char :=
  List.replicate (40 - digits.length) '0' ++ digits

theorem length_filled (h : digits.length ≤ 40) : (filled digits).length = 40 := by
  rw [filled, List.length_append, List.length_replicate, Nat.sub_add_cancel h]

/-- With no more digits than an address has, the digits filled up with zeros decide. -/
theorem ofText_of_short (hne : digitsPart s.toList ≠ [])
    (hshort : (digitsPart s.toList).length ≤ 40) :
    ofText s = match Bytes.ofHexChars? (filled (digitsPart s.toList)) with
      | none => .error (.badDigits s)
      | some bytes => ofBytes bytes := by
  have hempty : ¬ (digitsPart s.toList).isEmpty = true := by simpa using hne
  exact (if_neg hempty).trans (if_neg hshort.not_gt)

/-- A text that spells an address is read as the number that its digits denote. -/
theorem Spells.exists_ofText (h : Spells digits s.toList) :
    ∃ a, ofText s = .ok a ∧ Bytes.toNat a.bytes = Bytes.hexNumber digits := by
  have hpart : digitsPart s.toList = digits := h.digitsPart_eq
  have hlength : (filled digits).length = 40 := length_filled h.valid.short
  have hdigits : ∀ c ∈ filled digits, (Bytes.hexValue? c).isSome = true := by
    intro c hc
    rcases List.mem_append.1 hc with hc | hc
    · rw [List.eq_of_mem_replicate hc]
      rfl
    · exact h.valid.isSome c hc
  obtain ⟨bytes, hbytes⟩ := Bytes.exists_ofHexChars? hdigits (by rw [hlength]; decide)
  have hsize : bytes.length = 20 := by
    have htwo := Bytes.length_eq_of_ofHexChars? hdigits hbytes
    omega
  refine ⟨⟨bytes, hsize⟩, ?_, ?_⟩
  · rw [ofText_of_short (by rw [hpart]; exact h.valid.nonempty) (by rw [hpart]; exact h.valid.short),
      hpart, hbytes]
    exact dif_pos hsize
  · rw [Bytes.toNat_of_ofHexChars? hbytes, filled, Bytes.hexNumber_replicate_append]

/-- Why a text is no address: it has no digits, too many characters, one that is neither digit nor
blank, or a blank that leaves too few bytes. -/
inductive Refuses (s : String) : AddressError → Prop
  | noDigits (empty : digitsPart s.toList = []) : Refuses s (.noDigits (Text.quoted s))
  | tooLong (long : 40 < (digitsPart s.toList).length) :
    Refuses s (.tooLong (digitsPart s.toList).length)
  | badDigits {c : Char} (mem : c ∈ digitsPart s.toList) (bad : Bytes.hexValue? c = none) :
    Refuses s (.badDigits s)
  | wrongSize {c : Char} {size : ℕ} (mem : c ∈ digitsPart s.toList)
    (blank : Text.isAsciiBlank c = true) (few : size < 20) : Refuses s (.wrongSize size)

/-- A text with other digits than it may have is refused, and the reason says what is wrong with
them. -/
theorem exists_refuses (h : ¬ AreDigits (digitsPart s.toList)) :
    ∃ e, ofText s = .error e ∧ Refuses s e := by
  by_cases hempty : digitsPart s.toList = []
  · exact ⟨_, by simp [ofText, hempty], .noDigits hempty⟩
  by_cases hlong : 40 < (digitsPart s.toList).length
  · exact ⟨_, by simp [ofText, hempty, hlong], .tooLong hlong⟩
  have hshort := not_lt.1 hlong
  have hlength := length_filled hshort
  obtain ⟨c, hc, hnone⟩ : ∃ c ∈ digitsPart s.toList, Bytes.hexValue? c = none := by
    by_contra hall
    refine h ⟨hempty, hshort, fun c hc ↦ ?_⟩
    rw [Option.isSome_iff_ne_none]
    exact fun hnone ↦ hall ⟨c, hc, hnone⟩
  cases hbytes : Bytes.ofHexChars? (filled (digitsPart s.toList)) with
  | none =>
    refine ⟨.badDigits s, ?_, .badDigits hc hnone⟩
    rw [ofText_of_short hempty hshort, hbytes]
  | some bytes =>
    have hmem : c ∈ filled (digitsPart s.toList) := List.mem_append_right _ hc
    have hblank : Text.isAsciiBlank c = true := by
      rcases Bytes.isSome_hexValue?_or_isAsciiBlank hbytes c hmem with hsome | hblank
      · rw [hnone] at hsome
        cases hsome
      · exact hblank
    have hle := Bytes.length_le_of_ofHexChars? hbytes
    have hfew : bytes.length < 20 := by
      by_contra hmany
      have hsome := Bytes.isSome_hexValue?_of_length hbytes (by omega) c hmem
      rw [hnone] at hsome
      cases hsome
    refine ⟨.wrongSize bytes.length, ?_, .wrongSize hc hblank hfew⟩
    rw [ofText_of_short hempty hshort, hbytes]
    exact dif_neg hfew.ne

/-- A text is accepted exactly if it spells an address. The address then has the digits of its number
to base 256, so that two texts are read as one address exactly if they denote one number. -/
theorem ofText_grammar (s : String) :
    (∀ digits, Spells digits s.toList →
      ∃ a, ofText s = .ok a ∧ a.bytes = Bytes.ofNat 20 (Bytes.hexNumber digits)) ∧
    ((∀ digits, ¬ Spells digits s.toList) → ∃ e, ofText s = .error e ∧ Refuses s e) ∧
    ∀ s' digits digits', Spells digits s.toList → Spells digits' s'.toList →
      (ofText s = ofText s' ↔ Bytes.hexNumber digits = Bytes.hexNumber digits') := by
  refine ⟨?_, ?_, ?_⟩
  · intro digits h
    obtain ⟨a, haccepted, hnumber⟩ := h.exists_ofText
    refine ⟨a, haccepted, ?_⟩
    rw [← hnumber, ← a.length_bytes, Bytes.ofNat_toNat]
  · intro hnone
    exact exists_refuses fun hdigits ↦ hnone _ (spells_digitsPart hdigits)
  · intro s' digits digits' h h'
    obtain ⟨a, haccepted, hnumber⟩ := h.exists_ofText
    obtain ⟨a', haccepted', hnumber'⟩ := h'.exists_ofText
    rw [haccepted, haccepted', ← hnumber, ← hnumber']
    constructor
    · intro hsame
      rw [Except.ok.inj hsame]
    · intro hsame
      have hbytes : a.bytes = a'.bytes := by
        rw [← Bytes.ofNat_toNat a.bytes, ← Bytes.ofNat_toNat a'.bytes, hsame, a.length_bytes,
          a'.length_bytes]
      rw [Address.ext hbytes]

/-- Two spellings of one number, and a text that blanks make too short. -/
theorem ofText_zeros_in_front :
    ofText "0X00fF" = ofText "fF" ∧ ofText "0x ff " = .error (.wrongSize 19) := by
  have valid : AreDigits ['f', 'F'] := ⟨by decide, by decide, List.all_eq_true.1 rfl⟩
  have valid' : AreDigits ['0', '0', 'f', 'F'] := ⟨by decide, by decide, List.all_eq_true.1 rfl⟩
  have hsame := (ofText_grammar "0X00fF").2.2 "fF" ['0', '0', 'f', 'F'] ['f', 'F']
    (.marked (.inr rfl) valid') (.bare valid)
  exact ⟨hsame.2 (by decide), by decide +kernel⟩

end Address

end ValidatorReader
