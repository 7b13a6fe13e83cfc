import ValidatorReader.Proofs.Number.Numerals
import ValidatorReader.Settings.Block

/-!
# Block arguments

A block argument that is an integer literal, in whatever notation, names the block of that number, and a
literal of a negative number is refused as negative. The word for the newest block is no literal, and
every other text is refused with its quoted form.
-/

namespace ValidatorReader

open Number (Literal Magnitude Mark Run Sign maxDigits)

variable {s : String} {n : ℕ}

/-- The word for the newest block is no literal: it does not begin with white space, a sign or a digit. -/
theorem not_literal_latest (z : ℤ) : ¬ Literal "latest".toList z := by
  have hnone : Number.readLiteral? "latest".toList = none := by decide
  rw [← Number.readLiteral?_eq_some_iff, hnone]
  exact (Option.some_ne_none z).symm

namespace BlockChoice

/-- A literal is a block exactly if it is not negative. -/
theorem ofText_of_literal {z : ℤ} (h : Literal s.toList z) :
    ofText s = match z with
      | .ofNat n => .ok (number n)
      | .negSucc _ => .error .negative := by
  have hword : s ≠ "latest" := by
    rintro rfl
    exact not_literal_latest z h
  rw [ofText, if_neg hword, Number.readLiteral?_eq_some_iff.2 h]
  cases z <;> rfl

theorem ofText_of_not_literal (hword : s ≠ "latest") (h : ∀ z, ¬ Literal s.toList z) :
    ofText s = .error (.notANumber (Text.quoted s)) := by
  have hnone : Number.readLiteral? s.toList = none :=
    Option.eq_none_iff_forall_ne_some.2 fun z hz ↦ h z (Number.readLiteral?_eq_some_iff.1 hz)
  rw [ofText, if_neg hword, hnone]

/-- What a block argument means: the word, a literal of either kind, or neither. -/
inductive Means (s : String) : Except BlockError BlockChoice → Prop
  | newest (word : s = "latest") : Means s (.ok latest)
  | number {n : ℕ} (literal : Literal s.toList n) : Means s (.ok (number n))
  | negative {n : ℕ} (positive : 0 < n) (literal : Literal s.toList (-n)) :
    Means s (.error .negative)
  | neither (other : s ≠ "latest") (unread : ∀ z, ¬ Literal s.toList z) :
    Means s (.error (.notANumber (Text.quoted s)))

/-- Every text means something, a reason for a refusal at least. -/
theorem exists_means (s : String) : ∃ r, Means s r := by
  by_cases hword : s = "latest"
  · exact ⟨_, .newest hword⟩
  by_cases hliteral : ∃ z, Literal s.toList z
  · obtain ⟨z, h⟩ := hliteral
    cases z with
    | ofNat n => exact ⟨_, .number h⟩
    | negSucc n => exact ⟨_, .negative n.succ_pos h⟩
  · exact ⟨_, .neither hword (not_exists.1 hliteral)⟩

theorem Means.ofText_eq {r : Except BlockError BlockChoice} (h : Means s r) : ofText s = r := by
  cases h with
  | newest word => rw [ofText, if_pos word]
  | number literal => exact ofText_of_literal literal
  | @negative n positive literal =>
    obtain ⟨m, rfl⟩ := Nat.exists_eq_succ_of_ne_zero positive.ne'
    exact ofText_of_literal literal
  | neither other unread => exact ofText_of_not_literal other unread

/-- A block argument is read as what it means. -/
theorem ofText_eq_iff {r : Except BlockError BlockChoice} : ofText s = r ↔ Means s r := by
  constructor
  · rintro rfl
    obtain ⟨r, h⟩ := exists_means s
    rwa [h.ofText_eq]
  · exact Means.ofText_eq

theorem ofText_eq_latest_iff : ofText s = .ok latest ↔ s = "latest" := by
  rw [ofText_eq_iff]
  refine ⟨fun h ↦ ?_, .newest⟩
  cases h with
  | newest word => exact word

theorem ofText_eq_number_iff : ofText s = .ok (number n) ↔ Literal s.toList n := by
  rw [ofText_eq_iff]
  refine ⟨fun h ↦ ?_, .number⟩
  cases h with
  | number literal => exact literal

/-- A text is refused as negative exactly if it is a literal below zero. -/
theorem ofText_eq_negative_iff :
    ofText s = .error .negative ↔ ∃ n : ℕ, 0 < n ∧ Literal s.toList (-n) := by
  rw [ofText_eq_iff]
  constructor
  · intro h
    cases h with
    | negative positive literal => exact ⟨_, positive, literal⟩
  · rintro ⟨n, positive, literal⟩
    exact .negative positive literal

/-- A text is refused as no number exactly if it is neither the word nor a literal. -/
theorem ofText_eq_notANumber_iff {quoted : String} :
    ofText s = .error (.notANumber quoted) ↔
      quoted = Text.quoted s ∧ s ≠ "latest" ∧ ∀ z, ¬ Literal s.toList z := by
  rw [ofText_eq_iff]
  constructor
  · intro h
    cases h with
    | neither other unread => exact ⟨rfl, other, unread⟩
  · rintro ⟨rfl, other, unread⟩
    exact .neither other unread

/-! ## Numerals -/

theorem ofText_toString (h : n < 10 ^ maxDigits) : ofText (toString n) = .ok (number n) :=
  ofText_eq_number_iff.2 (Number.literal_toString h)

theorem ofText_marked {letter : Char} {base : ℕ} (mark : Mark letter base) (zeros n : ℕ) :
    ofText (String.ofList
      ('0' :: letter :: (List.replicate zeros '0' ++ Nat.toDigits base n))) = .ok (number n) := by
  rw [ofText_eq_number_iff, String.toList_ofList]
  exact Number.literal_marked mark zeros n

/-! ## Block arguments -/

/-- A block argument names a block by the word for the newest one or by a literal of its number, and is
refused as negative if it is a literal of a number below zero. All other texts are refused too, with the
text quoted. The literals of a number are its numeral, if it is not too long, and its numerals behind a
mark with any number of zeros, besides all their spellings in the grammar. -/
theorem ofText_literals :
    (∀ (s : String) (n : ℕ), ofText s = .ok (number n) ↔ Literal s.toList n) ∧
    (∀ s, ofText s = .ok latest ↔ s = "latest") ∧
    (∀ s, ofText s = .error .negative ↔ ∃ n : ℕ, 0 < n ∧ Literal s.toList (-n)) ∧
    (∀ s quoted, ofText s = .error (.notANumber quoted) ↔
      quoted = Text.quoted s ∧ s ≠ "latest" ∧ ∀ z, ¬ Literal s.toList z) ∧
    BlockError.negative.message = "block number must not be negative" ∧
    (∀ n < 10 ^ maxDigits, ofText (toString n) = .ok (number n)) ∧
    ∀ letter base, Mark letter base → ∀ zeros n,
      ofText (String.ofList ('0' :: letter :: (List.replicate zeros '0' ++ Nat.toDigits base n))) =
        .ok (number n) :=
  ⟨fun _ _ ↦ ofText_eq_number_iff, fun _ ↦ ofText_eq_latest_iff, fun _ ↦ ofText_eq_negative_iff,
    fun _ _ ↦ ofText_eq_notANumber_iff, rfl, fun _ h ↦ ofText_toString h,
    fun _ _ mark zeros n ↦ ofText_marked mark zeros n⟩

/-- A negative hexadecimal literal with blanks, underscores, a zero of another script and letters of both
cases, and a zero with a minus. -/
theorem ofText_literals_below_zero :
    ofText "\u2003-\uff10X_0f_F\t" = .error .negative ∧ ofText "-0b0" = .ok (number 0) := by
  have hf : Number.HasValue 'f' 15 := (Number.hexValue?_of_lt (by decide)).1 rfl
  have hF : Number.HasValue 'F' 15 := (Number.hexValue?_of_lt (by decide)).1 rfl
  have run : Run 16 "0f_F".toList [0, 15, 15] :=
    .next (.figure rfl) (by decide) (.apart hf (by decide) (.last hF (by decide)))
  have hlong : Literal "\u2003-\uff10X_0f_F\t".toList (-(255 : ℕ)) :=
    .intro (List.forall_mem_singleton.2 ⟨rfl, by decide⟩) .minus
      (.markedApart rfl (.hexadecimal (.inr rfl)) run) (List.forall_mem_singleton.2 ⟨rfl, by decide⟩)
  have run' : Run 2 ['0'] [0] := .last (.figure rfl) (by decide)
  have hzero : Literal "-0b0".toList (0 : ℕ) :=
    .intro (List.forall_mem_nil _) .minus (@Magnitude.marked '0' 'b' _ _ _ rfl (.binary (.inl rfl)) run')
      (List.forall_mem_nil _)
  obtain ⟨hnumber, -, hnegative, -⟩ := ofText_literals
  exact ⟨(hnegative _).2 ⟨255, by decide, hlong⟩, (hnumber _ 0).2 hzero⟩

end BlockChoice

end ValidatorReader
