import ValidatorReader.Proofs.Terminal.Layout
import ValidatorReader.Terminal.Markup

/-!
# Marks in a piece of text

What may be taken away from a text in markup is written with marks: brackets, backslashes, colons and
two control characters. A piece of text is shown with as many marks as it has or with fewer, and with
as many only if none of the steps on the way changes it.
-/

namespace ValidatorReader.Terminal

variable {c : Char} {cs rest : List Char}

/-! ## Counting -/

/-- Whether a character is one that markup may take away. -/
def isMark (c : Char) : Bool :=
  c == '[' || c == '\\' || c == ':' || c.toNat == 7 || c.toNat == 8

def marks (cs : List Char) : ℕ :=
  cs.countP isMark

@[simp]
theorem marks_nil : marks [] = 0 := rfl

@[simp]
theorem marks_append (cs ds : List Char) : marks (cs ++ ds) = marks cs + marks ds :=
  List.countP_append

theorem marks_cons (c : Char) (cs : List Char) : marks (c :: cs) = marks [c] + marks cs :=
  marks_append [c] cs

theorem marks_replicate (n : ℕ) : marks (List.replicate n '\\') = n := by
  rw [marks, List.countP_replicate, if_pos (by decide)]

theorem isBlank_eq_false_of_isMark (h : isMark c = true) : Text.isBlank c = false := by
  simp only [isMark, Bool.or_eq_true, beq_iff_eq] at h
  rcases h with (((rfl | rfl) | rfl) | h) | h
  · decide
  · decide
  · decide
  · simp [Text.isBlank, h]
  · simp [Text.isBlank, h]

/-- No mark is blank. -/
theorem marks_ink (cs : List Char) : marks (ink cs) = marks cs := by
  rw [marks, ink, List.countP_filter, marks]
  apply List.countP_congr
  intro c _
  rw [Bool.and_eq_true, Bool.not_eq_true', and_iff_left_iff_imp]
  exact isBlank_eq_false_of_isMark

/-- Whether a text that is shown is the one that was written, or has fewer marks. -/
def Reduced (shown written : List Char) : Prop :=
  shown = written ∨ marks shown < marks written

theorem Reduced.marks_le {shown written : List Char} (h : Reduced shown written) :
    marks shown ≤ marks written := by
  rcases h with rfl | hfewer
  · exact le_rfl
  · exact hfewer.le

theorem Reduced.eq_of_marks_le {shown written : List Char} (h : Reduced shown written)
    (hmarks : marks written ≤ marks shown) : shown = written :=
  h.resolve_right hmarks.not_gt

theorem Reduced.append {shown shown' written written' : List Char} (h : Reduced shown written)
    (h' : Reduced shown' written') : Reduced (shown ++ shown') (written ++ written') := by
  rw [Reduced, marks_append, marks_append]
  rcases h with rfl | hfewer
  · rcases h' with rfl | hfewer'
    · exact .inl rfl
    · exact .inr (by omega)
  · exact .inr (Nat.add_lt_add_of_lt_of_le hfewer h'.marks_le)

/-! ## Escaped brackets -/

/-- Without an escaped bracket nothing is changed; each of them loses its backslash. -/
theorem unescapeBrackets_spec (cs : List Char) :
    (¬ ['\\', '['] <:+: cs ∧ unescapeBrackets cs = cs) ∨
      (['\\', '['] <:+: cs ∧ marks (unescapeBrackets cs) < marks cs) := by
  induction cs using unescapeBrackets.induct with
  | case1 rest ih =>
    right
    refine ⟨⟨[], rest, rfl⟩, ?_⟩
    have hpair : marks ['\\', '['] = 2 := by decide
    have hopen : marks ['['] = 1 := by decide
    have hrest : marks (unescapeBrackets rest) ≤ marks rest := by
      rcases ih with ⟨-, hsame⟩ | ⟨-, hfewer⟩
      · rw [hsame]
      · exact hfewer.le
    calc
      marks (unescapeBrackets ('\\' :: '[' :: rest))
          = marks ['['] + marks (unescapeBrackets rest) := by rw [unescapeBrackets, marks_cons]
      _ < marks ['\\', '['] + marks rest := by omega
      _ = marks ('\\' :: '[' :: rest) := (marks_append ['\\', '['] rest).symm
  | case2 c rest hnot ih =>
    have hhead : ¬ ['\\', '['] <+: c :: rest := by
      rintro ⟨after, hafter⟩
      obtain ⟨rfl, rfl⟩ := List.cons.inj hafter
      exact hnot after rfl rfl
    rw [List.infix_cons_iff, unescapeBrackets]
    · rcases ih with ⟨hnone, hsame⟩ | ⟨hsome, hfewer⟩
      · left
        exact ⟨not_or.2 ⟨hhead, hnone⟩, by rw [hsame]⟩
      · right
        refine ⟨.inr hsome, ?_⟩
        rw [marks_cons, marks_cons c rest]
        omega
    · exact hnot
  | case3 =>
    left
    exact ⟨by decide, rfl⟩

/-! ## Codes -/

/-- The name of a code stands between two colons. -/
theorem codeName?_eq_some {name : List Char} (h : codeName? rest = some name) :
    rest = name ++ ':' :: rest.drop (name.length + 1) := by
  unfold codeName? at h
  dsimp only at h
  split at h
  case isTrue hclosed =>
    obtain rfl := Option.some.inj h
    obtain ⟨after, hafter⟩ := List.head?_eq_some_iff.1 hclosed
    rw [← List.drop_drop, hafter, List.drop_succ_cons, List.drop_zero, ← hafter,
      List.prefix_iff_eq_append.1 (List.takeWhile_prefix _)]
  case isFalse => cases h

theorem isMark_eq_false_of_isEmojiChar (h : isEmojiChar c = true) : isMark c = false := by
  rw [Bool.eq_false_iff]
  intro hmark
  simp only [isMark, Bool.or_eq_true, beq_iff_eq] at hmark
  rcases hmark with (((rfl | rfl) | rfl) | hbell) | hback
  · exact absurd h (by decide)
  · exact absurd h (by decide)
  · exact absurd h (by decide)
  · rw [← Char.ofNat_toNat c, hbell] at h
    exact absurd h (by decide)
  · rw [← Char.ofNat_toNat c, hback] at h
    exact absurd h (by decide)

theorem marks_emoji (emoji : Emoji) : marks emoji.chars = 0 := by
  rw [marks, List.countP_eq_zero]
  intro c hc
  rw [isMark_eq_false_of_isEmojiChar (List.all_eq_true.1 emoji.all_chars c hc)]
  exact Bool.false_ne_true

theorem marks_variant (name : List Char) : marks (splitVariant name).2 = 0 := by
  have hcolored : marks [Char.ofNat 0xfe0f] = 0 := by decide
  have hplain : marks [Char.ofNat 0xfe0e] = 0 := by decide
  unfold splitVariant
  dsimp only
  split
  · exact hcolored
  · exact hplain
  · rfl

theorem reduced_codeText {variant : List Char} (h : marks variant = 0) (name : List Char)
    (found : Option Emoji) : Reduced (codeText name variant found) (':' :: name ++ [':']) := by
  cases found with
  | none => exact .inl rfl
  | some emoji =>
    right
    rw [codeText.eq_1, marks_append, marks_emoji, h]
    exact List.countP_pos_iff.2 ⟨':', by simp, by decide⟩

/-- There are no marks in what a code stands for, unless it stands for itself. -/
theorem reduced_expandCode (name : List Char) :
    Reduced (expandCode name) (':' :: name ++ [':']) :=
  reduced_codeText (marks_variant name) name (emoji? (splitVariant name).1)

/-- Replacing a code takes its colons away, so the marks never become more. -/
theorem reduced_replaceCodes (skip : ℕ) (cs : List Char) :
    Reduced (replaceCodes skip cs) (cs.drop skip) := by
  induction cs generalizing skip with
  | nil =>
    left
    cases skip <;> rfl
  | cons c cs ih =>
    cases skip with
    | succ skip => exact ih skip
    | zero =>
      rw [List.drop_zero, replaceCodes]
      cases hname : (if c = ':' then codeName? cs else none) with
      | none => exact Reduced.append (.inl (rfl : [c] = [c])) (ih 0)
      | some name =>
        obtain rfl : c = ':' := by
          by_contra hne
          rw [if_neg hne] at hname
          cases hname
        rw [if_pos rfl] at hname
        have hwritten : ':' :: cs = (':' :: name ++ [':']) ++ cs.drop (name.length + 1) := by
          rw [List.append_assoc, List.singleton_append, List.cons_append, ← codeName?_eq_some hname]
        rw [hwritten]
        exact (reduced_expandCode name).append (ih (name.length + 1))

/-! ## Control characters -/

/-- Dropping control characters takes marks away, unless there is no bell and no backspace. -/
theorem marks_filter_isControl (cs : List Char) :
    (∀ c ∈ cs, c.toNat ≠ 7 ∧ c.toNat ≠ 8) ∨ marks (cs.filter (!isControl ·)) < marks cs := by
  by_cases h : ∀ c ∈ cs, c.toNat ≠ 7 ∧ c.toNat ≠ 8
  · exact .inl h
  · right
    obtain ⟨c, hc, hcontrol⟩ : ∃ c ∈ cs, c.toNat = 7 ∨ c.toNat = 8 := by
      by_contra hnone
      refine h fun c hc ↦ ⟨?_, ?_⟩
      · exact fun hbell ↦ hnone ⟨c, hc, .inl hbell⟩
      · exact fun hback ↦ hnone ⟨c, hc, .inr hback⟩
    have hsplit := List.countP_eq_countP_filter_add cs isMark (!isControl ·)
    have hlost : 0 < (cs.filter (fun d ↦ !(!isControl d))).countP isMark := by
      rw [List.countP_pos_iff]
      refine ⟨c, List.mem_filter.2 ⟨hc, ?_⟩, ?_⟩
      · rcases hcontrol with h | h <;> simp [isControl, h]
      · rcases hcontrol with h | h <;> simp [isMark, h]
    rw [marks, marks]
    omega

theorem ink_filter_isControl (h : ∀ c ∈ cs, c.toNat ≠ 7 ∧ c.toNat ≠ 8) :
    ink (cs.filter (!isControl ·)) = ink cs := by
  rw [ink, List.filter_filter]
  apply List.filter_congr
  intro c hc
  obtain ⟨hbell, hback⟩ := h c hc
  cases hcontrol : isControl c with
  | false => simp
  | true =>
    have hblank : Text.isBlank c = true := by
      simp only [isControl, List.contains_cons, List.contains_nil, Bool.or_false, Bool.or_eq_true,
        beq_iff_eq] at hcontrol
      simp only [Text.isBlank, Bool.or_eq_true, Bool.and_eq_true, decide_eq_true_eq, beq_iff_eq]
      omega
    simp [hblank]

/-! ## Whole pieces -/

theorem marks_unescapeBrackets_le (cs : List Char) : marks (unescapeBrackets cs) ≤ marks cs := by
  rcases unescapeBrackets_spec cs with ⟨-, hsame⟩ | ⟨-, hfewer⟩
  · rw [hsame]
  · exact hfewer.le

theorem marks_filter_isControl_le (cs : List Char) :
    marks (cs.filter (!isControl ·)) ≤ marks cs :=
  List.Sublist.countP_le List.filter_sublist

theorem marks_shownText_le (text : List Char) : marks (shownText text) ≤ marks text :=
  calc
    marks (shownText text) ≤ marks (replaceCodes 0 (unescapeBrackets text)) :=
      marks_filter_isControl_le _
    _ ≤ marks (unescapeBrackets text) := (reduced_replaceCodes 0 _).marks_le
    _ ≤ marks text := marks_unescapeBrackets_le text

end ValidatorReader.Terminal
