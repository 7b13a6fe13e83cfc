import ValidatorReader.Proofs.Terminal.Layout

/-!
# Words in lines

A line that is laid out keeps its words in order: one that is not longer than the width stays whole, and a
longer one is cut into parts. Words do not run together, as the blanks behind a word go where the word
goes: a line to which the next word is added ends in a blank.
-/

namespace ValidatorReader.Terminal

variable {width : ℕ} {c : Char} {cs ds line : List Char} {w : Word} {ws : List Word} {l : Layout}

/-! ## Texts that end in a blank -/

/-- Whether a text ends in a blank, if it is not empty. -/
def IsOpen (cs : List Char) : Prop :=
  ∀ c ∈ cs.getLast?, Text.isBlank c = true

theorem isOpen_nil : IsOpen [] :=
  nofun

theorem IsOpen.words_append (h : IsOpen cs) (ds : List Char) :
    Text.words (cs ++ ds) = Text.words cs ++ Text.words ds := by
  rcases List.eq_nil_or_concat' cs with rfl | ⟨before, d, rfl⟩
  · rfl
  · have hd : Text.isBlank d = true := h d (by simp)
    rw [List.append_assoc, List.singleton_append, Text.words_append_cons hd,
      Text.words_append_cons hd, List.append_assoc]
    rfl

theorem IsOpen.of_suffix (h : IsOpen cs) (hsuffix : ds <:+ cs) : IsOpen ds := by
  obtain ⟨before, rfl⟩ := hsuffix
  intro c hc
  apply h
  rw [Option.mem_def] at hc ⊢
  rw [List.getLast?_append, hc, Option.some_or]

/-! ## The words of a line -/

/-- Whether a word has a text without blanks, and nothing but blanks behind it. -/
structure Word.WellFormed (w : Word) : Prop where
  ne_nil : w.text ≠ []
  unbroken : ∀ c ∈ w.text, Text.isBlank c = false
  endsBlank : w.EndsBlank

/-- Whether words are well formed and have blanks between them. -/
inductive Spaced : List Word → Prop
  | nil : Spaced []
  | last {w : Word} (hw : w.WellFormed) : Spaced [w]
  | cons {w : Word} {ws : List Word} (hw : w.WellFormed) (hblanks : w.blanks ≠ [])
    (hws : Spaced ws) : Spaced (w :: ws)

theorem Spaced.wellFormed (h : Spaced ws) : ∀ w ∈ ws, w.WellFormed := by
  induction h with
  | nil => exact nofun
  | last hw => simpa using hw
  | cons hw _ _ ih =>
    rw [List.forall_mem_cons]
    exact ⟨hw, ih⟩

theorem Word.WellFormed.words_chars (hw : w.WellFormed) : Text.words w.chars = [w.text] := by
  rw [Word.chars, Text.words_append_blanks hw.endsBlank,
    Text.words_eq_singleton hw.unbroken hw.ne_nil]

theorem Word.WellFormed.isOpen_append (hw : w.WellFormed) (hblanks : w.blanks ≠ [])
    (cs : List Char) : IsOpen (cs ++ w.chars) := by
  intro c hc
  apply hw.endsBlank
  rw [Word.chars, ← List.append_assoc, Option.mem_def,
    List.getLast?_append_of_ne_nil _ hblanks] at hc
  exact List.mem_of_getLast? hc

theorem Spaced.words_flatMap (h : Spaced ws) :
    Text.words (ws.flatMap Word.chars) = ws.map Word.text := by
  induction h with
  | nil => rfl
  | last hw => rw [List.flatMap_singleton, hw.words_chars, List.map_singleton]
  | cons hw hblanks _ ih =>
    have hopen : IsOpen (Word.chars _) := hw.isOpen_append hblanks []
    rw [List.flatMap_cons, hopen.words_append, hw.words_chars, ih, List.map_cons,
      List.singleton_append]

/-- Whether words are spaced, but that blanks may stand in front of them. -/
def IsLed (ws : List Word) : Prop :=
  Spaced ws ∨ ∃ blanks rest, ws = ⟨[], blanks⟩ :: rest ∧ blanks ≠ [] ∧
    (∀ c ∈ blanks, Text.isBlank c = true) ∧ Spaced rest

theorem isLed_pushWord_blank (hc : Text.isBlank c = true) (h : IsLed ws) :
    IsLed (pushWord c ws) := by
  have hsingle : ∀ d ∈ [c], Text.isBlank d = true := by simpa using hc
  right
  rcases h with hws | ⟨blanks, rest, rfl, hne, hblanks, hrest⟩
  · refine ⟨[c], ws, ?_, List.cons_ne_nil c [], hsingle, hws⟩
    cases hws with
    | nil => simp [pushWord, hc]
    | last hw => simp [pushWord, hc, hw.ne_nil]
    | cons hw _ _ => simp [pushWord, hc, hw.ne_nil]
  · refine ⟨c :: blanks, rest, ?_, List.cons_ne_nil c blanks, ?_, hrest⟩
    · simp [pushWord, hc]
    · rw [List.forall_mem_cons]
      exact ⟨hc, hblanks⟩

theorem Word.WellFormed.push (hc : Text.isBlank c = false) (hw : w.WellFormed) :
    Word.WellFormed ⟨c :: w.text, w.blanks⟩ where
  ne_nil := List.cons_ne_nil c w.text
  unbroken := by
    rw [List.forall_mem_cons]
    exact ⟨hc, hw.unbroken⟩
  endsBlank := hw.endsBlank

theorem wellFormed_single (hc : Text.isBlank c = false) {blanks : List Char}
    (hblanks : ∀ d ∈ blanks, Text.isBlank d = true) : Word.WellFormed ⟨[c], blanks⟩ where
  ne_nil := List.cons_ne_nil c []
  unbroken := by simpa using hc
  endsBlank := hblanks

theorem spaced_pushWord (hc : Text.isBlank c = false) (h : IsLed ws) : Spaced (pushWord c ws) := by
  rcases h with hws | ⟨blanks, rest, rfl, hne, hblanks, hrest⟩
  · cases hws with
    | nil =>
      simp only [pushWord, hc, Bool.false_eq_true, if_false]
      exact .last (wellFormed_single hc (List.forall_mem_nil _))
    | last hw =>
      simp only [pushWord, hc, Bool.false_eq_true, if_false]
      exact .last (hw.push hc)
    | cons hw hblanks hws =>
      simp only [pushWord, hc, Bool.false_eq_true, if_false]
      exact .cons (hw.push hc) hblanks hws
  · simp only [pushWord, hc, Bool.false_eq_true, if_false]
    exact .cons (wellFormed_single hc hblanks) hne hrest

theorem isLed_foldr_pushWord (cs : List Char) : IsLed (cs.foldr pushWord []) := by
  induction cs with
  | nil => exact .inl .nil
  | cons c cs ih =>
    rw [List.foldr_cons]
    cases hc : Text.isBlank c with
    | true => exact isLed_pushWord_blank hc ih
    | false => exact .inl (spaced_pushWord hc ih)

theorem lineWords_of_spaced (h : Spaced (cs.foldr pushWord [])) :
    lineWords cs = cs.foldr pushWord [] := by
  unfold lineWords
  split
  case h_1 hwords =>
    rw [hwords] at h
    cases h with
    | cons hw _ _ => exact absurd rfl hw.ne_nil
  case h_2 hwords =>
    rw [hwords] at h
    cases h with
    | last hw => exact absurd rfl hw.ne_nil
    | cons hw _ _ => exact absurd rfl hw.ne_nil
  case h_3 => rfl

/-- The words of a line that begins with one are spaced, and make it up. -/
theorem spaced_lineWords (hc : Text.isBlank c = false) (cs : List Char) :
    Spaced (lineWords (c :: cs)) ∧ (lineWords (c :: cs)).flatMap Word.chars = c :: cs := by
  have hspaced : Spaced ((c :: cs).foldr pushWord []) :=
    spaced_pushWord hc (isLed_foldr_pushWord cs)
  rw [lineWords_of_spaced hspaced]
  exact ⟨hspaced, flatMap_chars_foldr_pushWord (c :: cs)⟩

/-! ## Placing words -/

/-- The parts in which a word is shown. -/
def Word.parts (width : ℕ) (w : Word) : List (List Char) :=
  if cells w.text ≤ width then [w.text] else (chop width width w.chars).flatMap Text.words

theorem Word.WellFormed.flatten_parts (hwidth : 2 ≤ width) (hw : w.WellFormed) :
    (w.parts width).flatten = w.text := by
  unfold Word.parts
  split
  case isTrue => exact List.flatten_singleton
  case isFalse =>
    obtain ⟨piece, pieces, hchop, hjoined, -⟩ := chop_spec hwidth width w.chars
    calc
      ((chop width width w.chars).flatMap Text.words).flatten
          = (chop width width w.chars).flatMap ink := by
            rw [List.flatMap_def, List.flatten_flatten, List.map_map, ← List.flatMap_def]
            exact List.flatMap_congr fun part _ ↦ flatten_words part
      _ = ink w.chars := by
            rw [← ink_flatten, hchop, List.flatten_cons, hjoined]
      _ = w.text := by
            rw [← flatten_words, hw.words_chars, List.flatten_singleton]

namespace Layout

/-- The words in the lines of a layout. -/
def words (l : Layout) : List (List Char) :=
  l.lines.flatMap Text.words

theorem words_eq (l : Layout) :
    l.words = l.finished.reverse.flatMap Text.words ++ Text.words l.current := by
  rw [words, lines_eq, List.flatMap_append, List.flatMap_singleton]

theorem words_newLine (l : Layout) (text : List Char) :
    (l.newLine text).words = l.words ++ Text.words text := by
  rw [words, lines_newLine, List.flatMap_append, List.flatMap_singleton, words]

theorem words_foldl_newLine (l : Layout) (texts : List (List Char)) :
    (texts.foldl newLine l).words = l.words ++ texts.flatMap Text.words := by
  induction texts generalizing l with
  | nil => exact (List.append_nil _).symm
  | cons text texts ih =>
    rw [List.foldl_cons, ih, words_newLine, List.flatMap_cons, List.append_assoc]

theorem current_foldl_newLine (l : Layout) (texts : List (List Char)) :
    (texts.foldl newLine l).current <:+ l.current ++ texts.flatten := by
  induction texts generalizing l with
  | nil => exact (List.append_nil _).symm ▸ List.suffix_refl _
  | cons text texts ih =>
    rw [List.foldl_cons, List.flatten_cons]
    exact (ih (l.newLine text)).trans (List.suffix_append _ _)

/-- A word that is placed adds its parts, and then its blanks stand at the end. -/
theorem words_place (hwidth : 2 ≤ width) (hopen : IsOpen l.current) (hw : w.WellFormed) :
    (l.place width w).words = l.words ++ w.parts width ∧
      (w.blanks ≠ [] → IsOpen (l.place width w).current) := by
  unfold place Word.parts
  split
  case isTrue hroom =>
    rw [if_pos (by omega)]
    refine ⟨?_, fun hblanks ↦ hw.isOpen_append hblanks l.current⟩
    rw [words_eq, words_eq, hopen.words_append, hw.words_chars, List.append_assoc]
  case isFalse hroom =>
  split
  case isTrue hlong =>
    obtain ⟨piece, pieces, hchop, hjoined, -⟩ := chop_spec hwidth width w.chars
    have hchars (hblanks : w.blanks ≠ []) : IsOpen (piece ++ pieces.flatten) := by
      rw [hjoined]
      exact hw.isOpen_append hblanks []
    simp only [hchop, if_neg (Nat.not_le.2 hlong), List.flatMap_cons]
    split
    case isTrue hempty =>
      rw [isEmpty, Bool.and_eq_true, List.isEmpty_iff, List.isEmpty_iff] at hempty
      refine ⟨?_, fun hblanks ↦ (hchars hblanks).of_suffix (current_foldl_newLine _ pieces)⟩
      rw [words_foldl_newLine, words_eq, words_eq, hempty.1, hempty.2]
      rfl
    case isFalse =>
      refine ⟨?_, fun hblanks ↦ (hchars hblanks).of_suffix (current_foldl_newLine _ pieces)⟩
      rw [words_foldl_newLine, words_newLine, List.append_assoc]
  case isFalse hshort =>
  rw [if_pos (Nat.not_lt.1 hshort)]
  split
  case isTrue =>
    refine ⟨?_, fun hblanks ↦ hw.isOpen_append hblanks []⟩
    rw [words_newLine, hw.words_chars]
  case isFalse hfilled => exact absurd hroom (by omega)

theorem words_foldl_place (hwidth : 2 ≤ width) (hws : Spaced ws) (hopen : IsOpen l.current) :
    (ws.foldl (place width) l).words = l.words ++ ws.flatMap (Word.parts width) := by
  induction hws generalizing l with
  | nil => exact (List.append_nil _).symm
  | last hw =>
    rw [List.foldl_cons, List.foldl_nil, List.flatMap_singleton]
    exact (words_place hwidth hopen hw).1
  | cons hw hblanks _ ih =>
    obtain ⟨hwords, hopen'⟩ := words_place hwidth hopen hw
    rw [List.foldl_cons, ih (hopen' hblanks), hwords, List.flatMap_cons, List.append_assoc]

end Layout

/-! ## Whole lines -/

theorem words_flatMap_lines (lines : List (List Char)) :
    Text.words (lines.flatMap fun line ↦ line ++ ['\n']) = lines.flatMap Text.words := by
  induction lines with
  | nil => rfl
  | cons line lines ih =>
    rw [List.flatMap_cons, List.flatMap_cons, List.append_assoc, List.singleton_append,
      Text.words_append_cons (by decide), ih]

/-- Without tabs nothing is expanded. -/
theorem expandTabs_eq_self (h : '\t' ∉ cs) (position : ℕ) : expandTabs position cs = cs := by
  induction cs generalizing position with
  | nil => rfl
  | cons c cs ih =>
    rw [List.mem_cons, not_or] at h
    rw [expandTabs, if_neg (Ne.symm h.1), ih h.2]

theorem wrap_of_line (hfeeds : '\n' ∉ line) (htabs : '\t' ∉ line) :
    wrap width line = wrapLine width line := by
  have hsingle : Text.splitOn '\n' line = [line] := by
    apply Text.splitBy_eq_singleton
    intro c hc
    rw [beq_eq_false_iff_ne]
    rintro rfl
    exact hfeeds hc
  rw [wrap, hsingle, List.flatMap_singleton, expandTabs_eq_self htabs]

theorem words_breakLine (hwidth : 2 ≤ width) (hc : Text.isBlank c = false) (cs : List Char) :
    (breakLine width (c :: cs)).flatMap Text.words =
      (lineWords (c :: cs)).flatMap (Word.parts width) := by
  obtain ⟨hspaced, hchars⟩ := spaced_lineWords hc cs
  cases hwords : lineWords (c :: cs) with
  | nil =>
    rw [hwords] at hchars
    cases hchars
  | cons w ws =>
    rw [hwords] at hspaced
    simp only [breakLine, hwords]
    exact Layout.words_foldl_place hwidth hspaced isOpen_nil

/-- A line that begins with a word is shown with each word in parts, which make it up, and with one part for
a word that is not longer than the width. -/
theorem words_layOut (hwidth : 2 ≤ width) (hc : Text.isBlank c = false) (hfeeds : '\n' ∉ c :: cs)
    (htabs : '\t' ∉ c :: cs) :
    ∃ parts, Text.words (layOut width (c :: cs)).toList = parts.flatten ∧
      List.Forall₂ (fun word part ↦ part.flatten = word ∧ (cells word ≤ width → part = [word]))
        (Text.words (c :: cs)) parts := by
  obtain ⟨hspaced, hchars⟩ := spaced_lineWords hc cs
  have hfits := (breakLine_spec hwidth (c :: cs)).2
  have hwords : Text.words (c :: cs) = (lineWords (c :: cs)).map Word.text := by
    rw [← hspaced.words_flatMap, hchars]
  refine ⟨(lineWords (c :: cs)).map (Word.parts width), ?_, ?_⟩
  · calc
      Text.words (layOut width (c :: cs)).toList
          = (wrapLine width (c :: cs)).flatMap Text.words := by
            rw [layOut, String.toList_ofList, words_flatMap_lines, wrap_of_line hfeeds htabs]
      _ = (breakLine width (c :: cs)).flatMap fun part ↦ Text.words (fitLine width part) := by
            rw [wrapLine, List.flatMap_map]
      _ = (breakLine width (c :: cs)).flatMap Text.words :=
            List.flatMap_congr fun part hpart ↦ (hfits part hpart).words_fitLine
      _ = ((lineWords (c :: cs)).map (Word.parts width)).flatten := by
            rw [words_breakLine hwidth hc, List.flatMap_def]
  · rw [hwords, List.forall₂_map_left_iff, List.forall₂_map_right_iff, List.forall₂_same]
    intro w hw
    refine ⟨(hspaced.wellFormed w hw).flatten_parts hwidth, ?_⟩
    exact fun hcells ↦ if_pos hcells

end ValidatorReader.Terminal
