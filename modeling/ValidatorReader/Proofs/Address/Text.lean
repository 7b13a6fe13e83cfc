import Mathlib
import ValidatorReader.Address.Basic

/-!
# Texts of addresses

A text that is read as an address holds nothing but digits behind its mark: blanks between bytes would
leave too few of them. So it has no blanks at its ends and is not changed by trimming.
-/

namespace ValidatorReader

variable {cs : List Char} {c : Char} {bytes : List UInt8} {s : String} {a : Address}

/-! ## Digits -/

namespace Bytes

/-- A byte takes two digits at least, as blanks may stand between pairs of them. -/
theorem length_le_of_ofHexChars? (h : ofHexChars? cs = some bytes) :
    2 * bytes.length ≤ cs.length := by
  induction cs using ofHexChars?.induct generalizing bytes with
  | case1 =>
    obtain rfl := Option.some.inj h
    exact le_rfl
  | case2 c hblank =>
    simp only [ofHexChars?, hblank, if_true] at h
    obtain rfl := Option.some.inj h
    simp
  | case3 c hblank => simp [ofHexChars?, hblank] at h
  | case4 high low rest hblank ih =>
    rw [ofHexChars?, if_pos hblank] at h
    have hlength := ih h
    simp only [List.length_cons] at hlength ⊢
    omega
  | case5 high low rest hblank ih =>
    simp only [ofHexChars?, hblank, if_false, Option.bind_eq_bind, Option.bind_eq_some_iff,
      Bool.false_eq_true, Option.pure_def, Option.some.injEq] at h
    obtain ⟨_, _, _, _, tail, htail, rfl⟩ := h
    have hlength := ih htail
    simp only [List.length_cons]
    omega

/-- Where there are two characters to a byte, all of them are digits. -/
theorem isSome_hexValue?_of_length (h : ofHexChars? cs = some bytes)
    (hlength : cs.length = 2 * bytes.length) : ∀ c ∈ cs, (hexValue? c).isSome = true := by
  induction cs using ofHexChars?.induct generalizing bytes with
  | case1 =>
    intro c hc
    cases hc
  | case2 c hblank =>
    simp only [ofHexChars?, hblank, if_true] at h
    obtain rfl := Option.some.inj h
    cases hlength
  | case3 c hblank => simp [ofHexChars?, hblank] at h
  | case4 high low rest hblank ih =>
    rw [ofHexChars?, if_pos hblank] at h
    have hshort := length_le_of_ofHexChars? h
    simp only [List.length_cons] at hshort hlength
    omega
  | case5 high low rest hblank ih =>
    simp only [ofHexChars?, hblank, if_false, Option.bind_eq_bind, Option.bind_eq_some_iff,
      Bool.false_eq_true, Option.pure_def, Option.some.injEq] at h
    obtain ⟨_, hhigh, _, hlow, tail, htail, rfl⟩ := h
    simp only [List.length_cons] at hlength
    intro c hc
    rcases List.mem_cons.1 hc with rfl | hc
    · simp [hhigh]
    · rcases List.mem_cons.1 hc with rfl | hc
      · simp [hlow]
      · exact ih htail (by omega) c hc

theorem toNat_of_isSome_hexValue? (h : (hexValue? c).isSome = true) :
    (48 ≤ c.toNat ∧ c.toNat ≤ 57) ∨ (97 ≤ c.toNat ∧ c.toNat ≤ 102) ∨
      (65 ≤ c.toNat ∧ c.toNat ≤ 70) := by
  by_contra hnone
  have hvalue : hexValue? c = none := by
    simp only [hexValue?, Bool.and_eq_true, decide_eq_true_eq]
    rw [if_neg (by omega), if_neg (by omega), if_neg (by omega)]
  rw [hvalue] at h
  cases h

theorem isBlank_eq_false_of_isSome_hexValue? (h : (hexValue? c).isSome = true) :
    Text.isBlank c = false := by
  have hrange := toNat_of_isSome_hexValue? h
  rw [Bool.eq_false_iff]
  intro hblank
  simp only [Text.isBlank, Bool.or_eq_true, Bool.and_eq_true, decide_eq_true_eq,
    beq_iff_eq] at hblank
  omega

end Bytes

/-! ## Blanks -/

namespace Text

theorem trimBy_eq_self {p : Char → Bool} (h : ∀ c ∈ cs, p c = false) : trimBy p cs = cs := by
  have hdrop {ds : List Char} (hds : ∀ c ∈ ds, p c = false) : ds.dropWhile p = ds := by
    cases ds with
    | nil => rfl
    | cons d ds => exact List.dropWhile_cons_of_neg (by simp [hds d])
  have hreverse : ∀ c ∈ cs.reverse, p c = false := fun c hc ↦ h c (List.mem_reverse.1 hc)
  rw [trimBy, hdrop h, hdrop hreverse, List.reverse_reverse]

/-- What trimming takes away does not matter. -/
theorem trimBy_padded {p : Char → Bool} {before after : List Char} (hbefore : ∀ c ∈ before, p c = true)
    (hafter : ∀ c ∈ after, p c = true) (cs : List Char) :
    trimBy p (before ++ cs ++ after) = trimBy p cs := by
  have hnone : after.dropWhile p = [] := List.dropWhile_eq_nil_iff.2 hafter
  have hreverse : ∀ c ∈ after.reverse, p c = true := fun c hc ↦ hafter c (List.mem_reverse.1 hc)
  rw [trimBy, List.append_assoc, List.dropWhile_append_of_pos hbefore, List.dropWhile_append, hnone]
  cases hrest : cs.dropWhile p with
  | nil => simp [trimBy, hrest]
  | cons c rest =>
    rw [trimBy, hrest, List.isEmpty_cons, if_neg Bool.false_ne_true, List.reverse_append,
      List.dropWhile_append_of_pos hreverse]

/-- Trimming takes away nothing but characters of the class at either end. -/
theorem exists_padding (p : Char → Bool) (cs : List Char) :
    ∃ before after, cs = before ++ trimBy p cs ++ after ∧ (∀ c ∈ before, p c = true) ∧
      ∀ c ∈ after, p c = true := by
  have hend : cs.dropWhile p =
      trimBy p cs ++ ((cs.dropWhile p).reverse.takeWhile p).reverse := by
    rw [trimBy, ← List.reverse_append, List.takeWhile_append_dropWhile, List.reverse_reverse]
  refine ⟨cs.takeWhile p, ((cs.dropWhile p).reverse.takeWhile p).reverse, ?_, ?_, ?_⟩
  · rw [List.append_assoc, ← hend, List.takeWhile_append_dropWhile]
  · exact fun c hc ↦ List.mem_takeWhile_imp hc
  · exact fun c hc ↦ List.mem_takeWhile_imp (List.mem_reverse.1 hc)

theorem trimBy_trimBy (p : Char → Bool) (cs : List Char) : trimBy p (trimBy p cs) = trimBy p cs := by
  obtain ⟨before, after, hcs, hbefore, hafter⟩ := exists_padding p cs
  calc
    trimBy p (trimBy p cs) = trimBy p (before ++ trimBy p cs ++ after) :=
      (trimBy_padded hbefore hafter _).symm
    _ = trimBy p cs := by rw [← hcs]

@[simp]
theorem trim_trim (s : String) : trim (trim s) = trim s := by
  rw [trim, trim, String.toList_ofList, trimBy_trimBy]

end Text

namespace Address

/-- An accepted text is made of digits behind its mark. -/
theorem isSome_hexValue?_of_ofText (h : ofText s = .ok a) :
    ∀ c ∈ digitsPart s.toList, (Bytes.hexValue? c).isSome = true := by
  unfold ofText at h
  simp only [] at h
  split at h
  · cases h
  · split at h
    · cases h
    · rename_i hshort
      cases hbytes : Bytes.ofHexChars?
          (List.replicate (40 - (digitsPart s.toList).length) '0' ++ digitsPart s.toList) with
      | none =>
        simp only [hbytes] at h
        cases h
      | some bytes =>
        simp only [hbytes, ofBytes] at h
        split at h
        · rename_i hsize
          intro c hc
          apply Bytes.isSome_hexValue?_of_length hbytes
          · rw [List.length_append, List.length_replicate, hsize]
            omega
          · exact List.mem_append_right _ hc
        · cases h

/-- Apart from its digits a text has only the characters of a prefix. -/
theorem eq_or_mem_digitsPart (h : c ∈ cs) : c = '0' ∨ c = 'x' ∨ c = 'X' ∨ c ∈ digitsPart cs := by
  unfold digitsPart
  split
  · rcases List.mem_cons.1 h with rfl | h
    · exact .inl rfl
    · rcases List.mem_cons.1 h with rfl | h
      · exact .inr (.inl rfl)
      · exact .inr (.inr (.inr h))
  · rcases List.mem_cons.1 h with rfl | h
    · exact .inl rfl
    · rcases List.mem_cons.1 h with rfl | h
      · exact .inr (.inr (.inl rfl))
      · exact .inr (.inr (.inr h))
  · exact .inr (.inr (.inr h))

/-- An accepted text has no blanks at its ends. -/
theorem trim_of_ofText (h : ofText s = .ok a) : Text.trim s = s := by
  have hblank : ∀ c ∈ s.toList, Text.isBlank c = false := by
    intro c hc
    rcases eq_or_mem_digitsPart hc with rfl | rfl | rfl | hc
    · decide
    · decide
    · decide
    · exact Bytes.isBlank_eq_false_of_isSome_hexValue? (isSome_hexValue?_of_ofText h c hc)
  rw [Text.trim, Text.trimBy_eq_self hblank, String.ofList_toList]

theorem ne_empty_of_ofText (h : ofText s = .ok a) : s ≠ "" := by
  rintro rfl
  cases h

end Address

end ValidatorReader
