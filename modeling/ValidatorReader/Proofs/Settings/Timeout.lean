import ValidatorReader.Proofs.Number.DecimalText
import ValidatorReader.Proofs.Settings

/-!
# The timeout

The timeout is given by the text of a double that is not at most zero. So it is above zero, with no minus
and without having underflowed, unless it is not a number: the comparison with zero lets the texts of
not-a-number pass.
-/

namespace ValidatorReader.Settings

open Number (Binary64 Sign)
open Number.Binary64 (Decimal Names Spells decimalValue infinityBits infinityBits_pos
  magnitudeOfDecimal magnitudeOfDecimal_eq_zero_iff magnitudeOfDecimal_le underflowBound)

variable {env : Environment} {settings : Settings} {raw : Option String} {cs : List Char}
  {x : Binary64}

/-- The text of the timeout, without the blanks around it. -/
def timeoutText (raw : Option String) : List Char :=
  (Text.trim (raw.getD "30")).toList

/-- Whether a text is one of not-a-number, with a sign or without. -/
def SpellsNan (cs : List Char) : Prop :=
  ∃ sign negative name, Sign sign negative ∧ Names "nan" name ∧ cs = sign ++ name

/-- The texts of timeouts: not-a-number, infinity without a minus, and the decimals without a minus that
are above half of the smallest double. -/
inductive Timeout : List Char → Binary64 → Prop
  | nan {cs : List Char} (spells : SpellsNan cs) : Timeout cs .nan
  | infinity {sign cs : List Char} (hsign : Sign sign false)
    (names : Names "inf" cs ∨ Names "infinity" cs) :
    Timeout (sign ++ cs) (.number false infinityBits)
  | decimal {sign cs : List Char} {digits : List ℕ} {exponent : ℤ} (hsign : Sign sign false)
    (decimal : Decimal cs digits exponent) (above : underflowBound < decimalValue digits exponent) :
    Timeout (sign ++ cs) (.number false (magnitudeOfDecimal digits exponent))

theorem magnitudeOfDecimal_pos_iff {digits : List ℕ} {exponent : ℤ}
    (h : Decimal cs digits exponent) :
    0 < magnitudeOfDecimal digits exponent ↔ underflowBound < decimalValue digits exponent := by
  rw [Nat.pos_iff_ne_zero, Ne, magnitudeOfDecimal_eq_zero_iff h.lt_ten, not_le]

theorem isAtMostZero_number {negative : Bool} {bits : ℕ} :
    (Binary64.number negative bits).isAtMostZero = false ↔ negative = false ∧ 0 < bits := by
  rw [Binary64.isAtMostZero, Bool.or_eq_false_iff, beq_eq_false_iff_ne, Nat.pos_iff_ne_zero]

/-- The timeouts are the doubles that are not at most zero. -/
theorem timeout_iff : Timeout cs x ↔ Spells cs x ∧ x.isAtMostZero = false := by
  constructor
  · intro h
    cases h with
    | nan spells =>
      obtain ⟨sign, negative, name, hsign, names, rfl⟩ := spells
      exact ⟨.nan hsign names, rfl⟩
    | infinity hsign names =>
      exact ⟨.infinity hsign names, isAtMostZero_number.2 ⟨rfl, infinityBits_pos⟩⟩
    | decimal hsign decimal above =>
      exact ⟨.decimal hsign decimal,
        isAtMostZero_number.2 ⟨rfl, (magnitudeOfDecimal_pos_iff decimal).2 above⟩⟩
  · rintro ⟨spells, hpositive⟩
    cases spells with
    | nan hsign names => exact .nan ⟨_, _, _, hsign, names, rfl⟩
    | infinity hsign names =>
      obtain ⟨rfl, -⟩ := isAtMostZero_number.1 hpositive
      exact .infinity hsign names
    | decimal hsign decimal =>
      obtain ⟨rfl, hbits⟩ := isAtMostZero_number.1 hpositive
      exact .decimal hsign decimal ((magnitudeOfDecimal_pos_iff decimal).1 hbits)

/-- The texts of timeouts are read, and no others are. -/
theorem readTimeout_eq_ok_iff : readTimeout raw = .ok x ↔ Timeout (timeoutText raw) x := by
  rw [timeout_iff, timeoutText, ← Number.Binary64.ofText?_eq_some_iff]
  simp only [readTimeout]
  constructor
  · intro h
    split at h
    · cases h
    · rename_i timeout htext
      split at h
      · cases h
      · rename_i hpositive
        obtain rfl := Except.ok.inj h
        exact ⟨htext, Bool.eq_false_iff.2 hpositive⟩
  · rintro ⟨htext, hpositive⟩
    simp only [htext, hpositive, Bool.false_eq_true, if_false]

theorem Timeout.eq_nan_of_spellsNan (h : Timeout (timeoutText raw) x)
    (spells : SpellsNan (timeoutText raw)) : x = .nan :=
  Except.ok.inj ((readTimeout_eq_ok_iff.2 h).symm.trans (readTimeout_eq_ok_iff.2 (.nan spells)))

/-- A timeout is above zero if its text is not one of not-a-number. -/
theorem Timeout.exists_bits (h : Timeout cs x) (other : ¬ SpellsNan cs) :
    ∃ bits, 0 < bits ∧ bits ≤ infinityBits ∧ x = .number false bits := by
  cases h with
  | nan spells => exact absurd spells other
  | infinity => exact ⟨infinityBits, infinityBits_pos, le_rfl, rfl⟩
  | decimal _ decimal above =>
    exact ⟨_, (magnitudeOfDecimal_pos_iff decimal).2 above, magnitudeOfDecimal_le _ _, rfl⟩

/-! ## Settings -/

/-- The settings that an environment results in are those read from it. -/
theorem read_of_ofEnvironment (h : (ofEnvironment env).result = .ok settings) :
    read env = .ok settings := by
  cases hread : read env with
  | error e =>
    rw [ofEnvironment_of_error hread] at h
    cases h
  | ok other =>
    rw [ofEnvironment_of_ok hread] at h
    rw [Except.ok.inj h]

/-- An environment that holds the text of a timeout and nothing else gives settings. -/
theorem exists_ofEnvironment_timeout {s : String} (h : Timeout (timeoutText (some s)) x) :
    ∃ settings, (ofEnvironment { rpcTimeout := some s }).result = .ok settings ∧
      settings.rpcTimeout = x := by
  have hlevel : readLevel none = .ok "INFO" := by cbv
  have hread : read { rpcTimeout := some s } =
      .ok ⟨none, readRpcUrl none, x, "INFO", nonempty? (Text.trim ((none : Option String).getD ""))⟩ := by
    rw [read_eq_ok_iff]
    dsimp only
    exact ⟨rfl, readTimeout_eq_ok_iff.2 h, hlevel, rfl, rfl⟩
  exact ⟨_, by rw [ofEnvironment_of_ok hread], rfl⟩

/-- The timeout of settings is what its text spells: not-a-number, infinity, or a decimal without a minus
that does not underflow. It is not a number exactly if the text says so, and above zero otherwise. -/
theorem rpcTimeout_above_zero (h : (ofEnvironment env).result = .ok settings) :
    Timeout (timeoutText env.rpcTimeout) settings.rpcTimeout ∧
      (settings.rpcTimeout = .nan ↔ SpellsNan (timeoutText env.rpcTimeout)) ∧
      (¬ SpellsNan (timeoutText env.rpcTimeout) →
        ∃ bits, 0 < bits ∧ bits ≤ infinityBits ∧ settings.rpcTimeout = .number false bits) := by
  obtain ⟨-, htimeout, -⟩ := read_eq_ok_iff.1 (read_of_ofEnvironment h)
  have timeout := readTimeout_eq_ok_iff.1 htimeout
  refine ⟨timeout, ⟨fun hnan ↦ ?_, timeout.eq_nan_of_spellsNan⟩, timeout.exists_bits⟩
  by_contra other
  obtain ⟨bits, -, -, hbits⟩ := timeout.exists_bits other
  cases hnan.symm.trans hbits

/-- A decimal with a plus, an underscore and an exponent. -/
theorem rpcTimeout_above_zero_one : ∃ settings bits,
    (ofEnvironment { rpcTimeout := some " +1_0e-1\t" }).result = .ok settings ∧
      0 < bits ∧ settings.rpcTimeout = .number false bits := by
  have run : Number.Run 10 "1_0".toList [1, 0] :=
    .apart (.figure rfl) (by decide) (.last (.figure rfl) (by decide))
  have run' : Number.Run 10 ['1'] [1] := .last (.figure rfl) (by decide)
  have power : Number.Binary64.Power "e-1".toList (-1) := .power (.inl rfl) .minus run'
  have decimal : Decimal "1_0e-1".toList [1, 0] (-1) :=
    .intro (.run run) .absent power (List.cons_ne_nil 1 [0])
  have hvalue : decimalValue [1, 0] (-1) = 1 := by
    norm_num [decimalValue, Nat.ofDigits_cons]
  have above : underflowBound < decimalValue [1, 0] (-1) :=
    hvalue ▸ Number.Binary64.underflowBound_lt_one
  have htext : timeoutText (some " +1_0e-1\t") = ['+'] ++ "1_0e-1".toList := by cbv
  have timeout := Timeout.decimal .plus decimal above
  rw [← htext] at timeout
  obtain ⟨settings, hresult, hsettings⟩ := exists_ofEnvironment_timeout timeout
  obtain ⟨-, hnan, hbits⟩ := rpcTimeout_above_zero hresult
  have hother : settings.rpcTimeout ≠ .nan := by
    rw [hsettings]
    exact Binary64.noConfusion
  obtain ⟨bits, hpos, -, heq⟩ := hbits (mt hnan.2 hother)
  exact ⟨settings, bits, hresult, hpos, heq⟩

/-- The text of not-a-number passes. -/
theorem rpcTimeout_not_a_number : ∃ settings,
    (ofEnvironment { rpcTimeout := some "nan" }).result = .ok settings ∧
      settings.rpcTimeout = .nan := by
  have htext : timeoutText (some "nan") = "nan".toList := by cbv
  have names : Names "nan" "nan".toList := by decide
  refine exists_ofEnvironment_timeout (.nan ?_)
  exact ⟨[], false, "nan".toList, .none, names, htext⟩

end ValidatorReader.Settings
