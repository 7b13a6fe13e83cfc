import ValidatorReader.Proofs.Number.Decimal
import ValidatorReader.Proofs.Number.Literals

/-!
# Numerals

The numeral of a number in a base is a run of its digits, and zeros in front of it change nothing. So
the decimal numeral is a literal of the number unless it is too long, and so are the numerals with a
mark, whatever their length and however many zeros follow the mark.
-/

namespace ValidatorReader.Number

variable {base d n : ℕ} {c : Char} {cs : List Char} {ds : List ℕ}

/-! ## Runs -/

theorem hasValue_digitChar (h : d < 16) : HasValue (Nat.digitChar d) d := by
  have hdigits : ∀ d < 16,
      (Nat.digitChar d).toNat < 0x80 ∧ Bytes.hexValue? (Nat.digitChar d) = some d := by decide
  obtain ⟨hascii, hvalue⟩ := hdigits d h
  exact (hexValue?_of_lt hascii).1 hvalue

theorem Run.concat (run : Run base cs ds) (value : HasValue c d) (below : d < base) :
    Run base (cs ++ [c]) (ds ++ [d]) := by
  induction run with
  | last value' below' => exact .next value' below' (.last value below)
  | next value' below' _ ih => exact .next value' below' ih
  | apart value' below' _ ih => exact .apart value' below' ih

theorem Run.append_zeros (run : Run base cs ds) (hbase : 0 < base) (zeros : ℕ) :
    Run base (List.replicate zeros '0' ++ cs) (List.replicate zeros 0 ++ ds) := by
  induction zeros with
  | zero => exact run
  | succ zeros ih => exact .next (.figure rfl) hbase ih

/-- The numeral of a number is a run of its digits, one for each character, and begins with a zero in
the numeral of zero only. -/
theorem exists_run_toDigits (hbase : 1 < base) (hle : base ≤ 16) (n : ℕ) :
    ∃ ds, Run base (Nat.toDigits base n) ds ∧ ds.length = (Nat.toDigits base n).length ∧
      Nat.ofDigits base ds.reverse = n ∧ (ds.head? = some 0 → n = 0) := by
  induction n using Nat.strongRecOn with
  | ind n ih =>
    by_cases hsmall : n < base
    · rw [Nat.toDigits_of_lt_base hsmall]
      exact ⟨[n], .last (hasValue_digitChar (by omega)) hsmall, rfl, Nat.ofDigits_singleton,
        Option.some.inj⟩
    · have hlast : n % base < base := Nat.mod_lt n (by omega)
      have hquotient : n / base ≠ 0 := (Nat.div_pos (not_lt.1 hsmall) (by omega)).ne'
      obtain ⟨ds, run, hlength, hvalue, hzero⟩ := ih (n / base) (Nat.div_lt_self (by omega) hbase)
      obtain ⟨_, _, d, e, -, rfl, -, -⟩ := run.exists_cons
      rw [Nat.toDigits_of_base_le hbase (not_lt.1 hsmall)]
      refine ⟨d :: e ++ [n % base], run.concat (hasValue_digitChar (by omega)) hlast, ?_, ?_, ?_⟩
      · rw [List.length_append, List.length_append, hlength]
        rfl
      · rw [List.reverse_concat, Nat.ofDigits_cons, hvalue]
        exact Nat.mod_add_div n base
      · exact fun hhead ↦ absurd (hzero hhead) hquotient

/-! ## Literals -/

theorem Magnitude.literal (magnitude : Magnitude cs n) : Literal cs n := by
  have literal := Literal.intro (List.forall_mem_nil IsWhitespace) .none magnitude
    (List.forall_mem_nil IsWhitespace)
  rwa [List.nil_append, List.nil_append, List.append_nil] at literal

/-- A numeral that is not too long is a literal of its number. -/
theorem literal_toString (h : n < 10 ^ maxDigits) : Literal (toString n).toList n := by
  have hshort : (Nat.toDigits 10 n).length ≤ maxDigits :=
    (Nat.length_toDigits_le_iff (by decide) (by decide)).2 h
  obtain ⟨ds, run, hlength, hvalue, hzero⟩ :=
    exists_run_toDigits (by decide : 1 < 10) (by decide) n
  have magnitude := Magnitude.decimal run (hlength.trans_le hshort) fun hhead ↦
    hvalue.trans (hzero hhead)
  rw [hvalue] at magnitude
  rw [toList_toString]
  exact magnitude.literal

theorem Mark.base_mem (mark : Mark c base) : base = 16 ∨ base = 8 ∨ base = 2 := by
  cases mark with
  | hexadecimal _ => exact .inl rfl
  | octal _ => exact .inr (.inl rfl)
  | binary _ => exact .inr (.inr rfl)

/-- A numeral behind a mark is a literal of its number, with zeros in front of it or without. -/
theorem literal_marked (mark : Mark c base) (zeros n : ℕ) :
    Literal ('0' :: c :: (List.replicate zeros '0' ++ Nat.toDigits base n)) n := by
  have hbase := mark.base_mem
  obtain ⟨ds, run, -, hvalue, -⟩ := exists_run_toDigits (by omega : 1 < base) (by omega) n
  have figure : Text.digitValue? '0' = some 0 := rfl
  have magnitude := Magnitude.marked figure mark (run.append_zeros (by omega) zeros)
  rw [List.reverse_append, List.reverse_replicate, Nat.ofDigits_append_replicate_zero, hvalue]
    at magnitude
  exact magnitude.literal

end ValidatorReader.Number
