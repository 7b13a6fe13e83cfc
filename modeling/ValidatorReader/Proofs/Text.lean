import Mathlib
import ValidatorReader.Text.Split

/-!
# Parts of a text

What stands between two separators is one part of a text, and what stands between two blanks is one
of its words. No part has characters that the text does not have.
-/

namespace ValidatorReader.Text

variable {p : Char → Bool} {c d : Char} {cs part : List Char} {lines : List (List Char)}

/-! ## Parts -/

theorem mem_of_mem_splitBy (hpart : part ∈ splitBy p cs) (hc : c ∈ part) : c ∈ cs := by
  induction cs generalizing part with
  | nil =>
    obtain rfl := List.mem_singleton.1 hpart
    exact hc
  | cons d cs ih =>
    rw [splitBy] at hpart
    cases hparts : splitBy p cs with
    | nil => exact absurd hparts (splitBy_ne_nil p cs)
    | cons first parts =>
      rw [hparts] at hpart ih
      have hlater {later : List Char} (hmem : later ∈ first :: parts) (hc : c ∈ later) :
          c ∈ d :: cs := List.mem_cons_of_mem d (ih hmem hc)
      dsimp only at hpart
      split at hpart
      · rcases List.mem_cons.1 hpart with rfl | hpart
        · cases hc
        · exact hlater hpart hc
      · rcases List.mem_cons.1 hpart with rfl | hpart
        · rcases List.mem_cons.1 hc with rfl | hc
          · exact List.mem_cons_self
          · exact hlater List.mem_cons_self hc
        · exact hlater (List.mem_cons_of_mem first hpart) hc

theorem splitBy_eq_singleton (h : ∀ c ∈ cs, p c = false) : splitBy p cs = [cs] := by
  induction cs with
  | nil => rfl
  | cons c cs ih =>
    have hc : p c = false := h c List.mem_cons_self
    rw [splitBy, ih fun d hd ↦ h d (List.mem_cons_of_mem c hd)]
    simp [hc]

/-- A separator ends one part and begins another. -/
theorem splitBy_append_cons (hd : p d = true) (cs rest : List Char) :
    splitBy p (cs ++ d :: rest) = splitBy p cs ++ splitBy p rest := by
  induction cs with
  | nil =>
    rw [List.nil_append, splitBy]
    cases hparts : splitBy p rest with
    | nil => exact absurd hparts (splitBy_ne_nil p rest)
    | cons first parts => simp [hd, hparts, splitBy]
  | cons c cs ih =>
    rw [List.cons_append, splitBy, ih, splitBy]
    cases hparts : splitBy p cs with
    | nil => exact absurd hparts (splitBy_ne_nil p cs)
    | cons first parts =>
      simp only [List.cons_append]
      split <;> rfl

/-- The part before a separator. -/
theorem splitBy_append (h : ∀ c ∈ cs, p c = false) (hd : p d = true) (rest : List Char) :
    splitBy p (cs ++ d :: rest) = cs :: splitBy p rest := by
  rw [splitBy_append_cons hd, splitBy_eq_singleton h, List.singleton_append]

/-- Lines that are each ended by a separator are the parts of the whole, and nothing is behind. -/
theorem splitOn_flatMap (h : ∀ line ∈ lines, d ∉ line) :
    splitOn d (lines.flatMap fun line ↦ line ++ [d]) = lines ++ [[]] := by
  induction lines with
  | nil => rfl
  | cons line lines ih =>
    have hline : ∀ c ∈ line, (c == d) = false := by
      intro c hc
      rw [beq_eq_false_iff_ne]
      rintro rfl
      exact h line List.mem_cons_self hc
    have hrest := ih fun line hline ↦ h line (List.mem_cons_of_mem _ hline)
    rw [splitOn] at hrest ⊢
    rw [List.flatMap_cons, List.append_assoc, List.singleton_append,
      splitBy_append hline (by simp), hrest, List.cons_append]

/-! ## Words -/

theorem words_append_cons (hd : isBlank d = true) (cs rest : List Char) :
    words (cs ++ d :: rest) = words cs ++ words rest := by
  rw [words, splitBy_append_cons hd, List.filter_append]
  rfl

theorem words_blank (hd : isBlank d = true) (cs : List Char) : words (d :: cs) = words cs :=
  words_append_cons hd [] cs

theorem words_eq_nil (h : ∀ c ∈ cs, isBlank c = true) : words cs = [] := by
  induction cs with
  | nil => rfl
  | cons c cs ih =>
    rw [words_blank (h c List.mem_cons_self)]
    exact ih fun d hd ↦ h d (List.mem_cons_of_mem c hd)

theorem words_append_blanks {ds : List Char} (h : ∀ d ∈ ds, isBlank d = true) (cs : List Char) :
    words (cs ++ ds) = words cs := by
  cases ds with
  | nil => rw [List.append_nil]
  | cons d ds =>
    rw [words_append_cons (h d List.mem_cons_self),
      words_eq_nil fun e he ↦ h e (List.mem_cons_of_mem d he), List.append_nil]

theorem words_replicate_append (n : ℕ) (cs : List Char) :
    words (List.replicate n ' ' ++ cs) = words cs := by
  induction n with
  | zero => rfl
  | succ n ih => rw [List.replicate_succ, List.cons_append, words_blank (by decide), ih]

theorem words_eq_singleton (h : ∀ c ∈ cs, isBlank c = false) (hne : cs ≠ []) :
    words cs = [cs] := by
  rw [words, splitBy_eq_singleton h, List.filter_cons_of_pos]
  · rfl
  · simpa using hne

/-- The word before a blank. -/
theorem words_append (h : ∀ c ∈ cs, isBlank c = false) (hne : cs ≠ []) (hd : isBlank d = true)
    (rest : List Char) : words (cs ++ d :: rest) = cs :: words rest := by
  rw [words_append_cons hd, words_eq_singleton h hne, List.singleton_append]

end ValidatorReader.Text
