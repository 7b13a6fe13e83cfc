import ValidatorReader.Proofs.Text
import ValidatorReader.Terminal.Wrap

/-!
# Texts laid out in lines

A text that is laid out keeps all its characters but blanks, in order, if two cells fit into a line:
words are moved between lines and long ones are cut, tabs and line feeds become other blanks, and what
is cut off at the end of a line is blank. The last holds because every line that is filled has no more
than the width before its blanks at the end.
-/

namespace ValidatorReader.Terminal

variable {width room : ℕ} {c : Char} {cs line : List Char} {w : Word} {l : Layout}

/-! ## What is not blank -/

def ink (cs : List Char) : List Char :=
  cs.filter (!Text.isBlank ·)

@[simp]
theorem ink_nil : ink [] = [] := rfl

@[simp]
theorem ink_append (cs ds : List Char) : ink (cs ++ ds) = ink cs ++ ink ds :=
  List.filter_append cs ds

theorem ink_cons (c : Char) (cs : List Char) : ink (c :: cs) = ink [c] ++ ink cs :=
  ink_append [c] cs

theorem ink_cons_of_isBlank (h : Text.isBlank c = true) (cs : List Char) :
    ink (c :: cs) = ink cs :=
  List.filter_cons_of_neg (by simp [h])

theorem ink_eq_nil (h : ∀ c ∈ cs, Text.isBlank c = true) : ink cs = [] := by
  rw [ink, List.filter_eq_nil_iff]
  intro c hc
  simp [h c hc]

theorem ink_flatMap {α : Type} (xs : List α) (f : α → List Char) :
    ink (xs.flatMap f) = xs.flatMap fun x ↦ ink (f x) := by
  induction xs with
  | nil => rfl
  | cons x xs ih => rw [List.flatMap_cons, ink_append, ih, List.flatMap_cons]

theorem ink_flatten (lines : List (List Char)) : ink lines.flatten = lines.flatMap ink := by
  induction lines with
  | nil => rfl
  | cons line lines ih => rw [List.flatten_cons, ink_append, ih, List.flatMap_cons]

/-- Words are what is left without the blanks. -/
theorem flatten_words (cs : List Char) : (Text.words cs).flatten = ink cs := by
  rw [Text.words, List.flatten_filter_not_isEmpty]
  induction cs with
  | nil => rfl
  | cons c cs ih =>
    rw [Text.splitBy]
    cases hparts : Text.splitBy Text.isBlank cs with
    | nil => exact absurd hparts (Text.splitBy_ne_nil _ cs)
    | cons part parts =>
      rw [hparts] at ih
      rw [ink_cons, ← ih]
      by_cases hc : Text.isBlank c = true
      · simp [ink, hc]
      · simp [ink, hc]

/-! ## Tabs and line feeds -/

/-- Tabs become blanks, and nothing else changes. -/
theorem ink_expandTabs (position : ℕ) (cs : List Char) : ink (expandTabs position cs) = ink cs := by
  induction cs generalizing position with
  | nil => rfl
  | cons c cs ih =>
    rw [expandTabs]
    split
    case isTrue htab =>
      have hblanks : ∀ d ∈ List.replicate (tabSize - position % tabSize) ' ',
          Text.isBlank d = true := by
        intro d hd
        rw [List.eq_of_mem_replicate hd]
        decide
      rw [ink_append, ink_eq_nil hblanks, ih, List.nil_append, htab]
      exact (ink_cons_of_isBlank (by decide) cs).symm
    case isFalse => rw [ink_cons, ih, ← ink_cons]

theorem flatMap_ink_splitOn {separator : Char} (h : Text.isBlank separator = true)
    (cs : List Char) : (Text.splitOn separator cs).flatMap ink = ink cs := by
  unfold Text.splitOn
  induction cs with
  | nil => rfl
  | cons c cs ih =>
    rw [Text.splitBy]
    cases hparts : Text.splitBy (· == separator) cs with
    | nil => exact absurd hparts (Text.splitBy_ne_nil _ cs)
    | cons part parts =>
      rw [hparts, List.flatMap_cons] at ih
      by_cases hc : c = separator
      · rw [hc, ink_cons_of_isBlank h, ← ih]
        simp
      · rw [ink_cons c cs, ← ih]
        simp [hc, ink_cons c part]

/-! ## Words -/

/-- Taking a character into the words of a text loses none. -/
theorem flatMap_chars_pushWord (c : Char) (ws : List Word) :
    (pushWord c ws).flatMap Word.chars = c :: ws.flatMap Word.chars := by
  cases ws with
  | nil =>
    rw [pushWord]
    split <;> rfl
  | cons w ws =>
    rw [pushWord]
    split
    · split
      case isTrue hempty =>
        have htext : w.text = [] := List.isEmpty_iff.1 hempty
        simp [Word.chars, htext]
      case isFalse => simp [Word.chars]
    · simp [Word.chars]

theorem flatMap_chars_foldr_pushWord (cs : List Char) :
    (cs.foldr pushWord []).flatMap Word.chars = cs := by
  induction cs with
  | nil => rfl
  | cons c cs ih => rw [List.foldr_cons, flatMap_chars_pushWord, ih]

/-- Whether the blanks of a word are blank. -/
def Word.EndsBlank (w : Word) : Prop :=
  ∀ c ∈ w.blanks, Text.isBlank c = true

theorem endsBlank_pushWord {ws : List Word} (h : ∀ w ∈ ws, w.EndsBlank) (c : Char) :
    ∀ w ∈ pushWord c ws, w.EndsBlank := by
  intro w hw
  cases ws with
  | nil =>
    rw [pushWord] at hw
    split at hw
    case isTrue hc =>
      obtain rfl := List.mem_singleton.1 hw
      intro d hd
      rw [List.mem_singleton.1 hd]
      exact hc
    case isFalse =>
      obtain rfl := List.mem_singleton.1 hw
      exact nofun
  | cons v ws =>
    have hv : v.EndsBlank := h v (by simp)
    have hws : ∀ w ∈ ws, w.EndsBlank := fun w hw ↦ h w (by simp [hw])
    rw [pushWord] at hw
    split at hw
    case isTrue hc =>
      split at hw
      · rcases List.mem_cons.1 hw with rfl | hw
        · intro d hd
          rcases List.mem_cons.1 hd with rfl | hd
          · exact hc
          · exact hv d hd
        · exact hws w hw
      · rcases List.mem_cons.1 hw with rfl | hw
        · intro d hd
          rw [List.mem_singleton.1 hd]
          exact hc
        · exact h w hw
    case isFalse =>
      rcases List.mem_cons.1 hw with rfl | hw
      · exact hv
      · exact hws w hw

theorem endsBlank_foldr_pushWord (cs : List Char) :
    ∀ w ∈ cs.foldr pushWord [], w.EndsBlank := by
  induction cs with
  | nil => exact nofun
  | cons c cs ih =>
    rw [List.foldr_cons]
    exact endsBlank_pushWord ih c

/-- The words of a line make up the line, unless there are none and the line is blank. -/
theorem lineWords_spec (cs : List Char) :
    (lineWords cs = [] ∧ (∀ c ∈ cs, Text.isBlank c = true)) ∨
      ((lineWords cs).flatMap Word.chars = cs ∧ ∀ w ∈ lineWords cs, w.EndsBlank) := by
  have hchars := flatMap_chars_foldr_pushWord cs
  have hblanks := endsBlank_foldr_pushWord cs
  unfold lineWords
  split
  case h_1 blanks w rest hwords =>
    right
    rw [hwords] at hchars hblanks
    refine ⟨?_, ?_⟩
    · rw [← hchars]
      simp [Word.chars]
    · intro v hv
      rcases List.mem_cons.1 hv with rfl | hv
      · exact hblanks w (by simp)
      · exact hblanks v (by simp [hv])
  case h_2 blanks hwords =>
    left
    rw [hwords] at hchars hblanks
    refine ⟨rfl, ?_⟩
    rw [← hchars]
    have hword : Word.EndsBlank ⟨[], blanks⟩ := hblanks _ (List.mem_singleton.2 rfl)
    simpa [Word.chars, Word.EndsBlank] using hword
  case h_3 => exact .inr ⟨hchars, hblanks⟩

/-! ## Cutting -/

theorem charCells_le_two (c : Char) : charCells c ≤ 2 := by
  unfold charCells
  dsimp only
  split
  · omega
  · split
    · omega
    · split <;> omega

/-- A text is cut into pieces that fit, the first of them into the room that is left. -/
theorem chop_spec (hwidth : 2 ≤ width) (room : ℕ) (cs : List Char) :
    ∃ piece pieces, chop width room cs = piece :: pieces ∧ piece ++ pieces.flatten = cs ∧
      cells piece ≤ room ∧ ∀ p ∈ pieces, cells p ≤ width := by
  induction cs generalizing room with
  | nil => exact ⟨[], [], rfl, rfl, Nat.zero_le _, nofun⟩
  | cons c cs ih =>
    have hc : charCells c ≤ 2 := charCells_le_two c
    by_cases hroom : charCells c ≤ room
    · obtain ⟨piece, pieces, hchop, hjoined, hpiece, hpieces⟩ := ih (room - charCells c)
      refine ⟨c :: piece, pieces, ?_, ?_, ?_, hpieces⟩
      · rw [chop, if_pos hroom, hchop]
      · rw [List.cons_append, hjoined]
      · rw [cells_cons]
        omega
    · obtain ⟨piece, pieces, hchop, hjoined, hpiece, hpieces⟩ := ih (width - charCells c)
      refine ⟨[], (c :: piece) :: pieces, ?_, ?_, Nat.zero_le _, ?_⟩
      · rw [chop, if_neg hroom, hchop]
      · rw [List.flatten_cons, List.nil_append, List.cons_append, hjoined]
      · intro p hp
        rcases List.mem_cons.1 hp with rfl | hp
        · rw [cells_cons]
          omega
        · exact hpieces p hp

/-! ## Lines that are filled -/

/-- Whether a line has no more than the width before the blanks at its end. -/
def Fits (width : ℕ) (line : List Char) : Prop :=
  ∃ body blanks, line = body ++ blanks ∧ cells body ≤ width ∧ ∀ c ∈ blanks, Text.isBlank c = true

theorem fits_of_cells_le (h : cells line ≤ width) : Fits width line :=
  ⟨line, [], (List.append_nil line).symm, h, nofun⟩

theorem fits_of_blank (h : ∀ c ∈ line, Text.isBlank c = true) : Fits width line :=
  ⟨[], line, rfl, Nat.zero_le _, h⟩

theorem fits_append_chars (hw : w.EndsBlank) (h : cells line + cells w.text ≤ width) :
    Fits width (line ++ w.chars) := by
  refine ⟨line ++ w.text, w.blanks, ?_, ?_, hw⟩
  · rw [Word.chars, List.append_assoc]
  · rw [cells_append]
    exact h

/-- What holds while lines are filled: the cells of the current line are counted and all lines fit. -/
structure Layout.Sound (width : ℕ) (l : Layout) : Prop where
  filled : l.filled = cells l.current
  fits : ∀ line ∈ l.lines, Fits width line

namespace Layout

theorem lines_newLine (l : Layout) (text : List Char) :
    (l.newLine text).lines = l.lines ++ [text] := by
  simp [newLine, lines]

theorem lines_eq (l : Layout) : l.lines = l.finished.reverse ++ [l.current] := by
  simp [lines]

theorem sound_empty : Sound width {} := by
  refine ⟨rfl, ?_⟩
  intro line hline
  obtain rfl := List.mem_singleton.1 hline
  exact fits_of_blank nofun

/-- A line that fits may be begun. -/
theorem Sound.newLine {text : List Char} (h : l.Sound width) (htext : Fits width text) :
    (l.newLine text).Sound width := by
  refine ⟨rfl, ?_⟩
  intro line hline
  rw [lines_newLine] at hline
  rcases List.mem_append.1 hline with hline | hline
  · exact h.fits line hline
  · rw [List.mem_singleton.1 hline]
    exact htext

/-- A change of the current line alone. -/
theorem Sound.setCurrent {text : List Char} (h : l.Sound width) (htext : Fits width text) :
    Sound width { l with current := text, filled := cells text } := by
  refine ⟨rfl, ?_⟩
  intro line hline
  rw [lines_eq] at hline
  rcases List.mem_append.1 hline with hline | hline
  · apply h.fits line
    rw [lines_eq]
    exact List.mem_append_left _ hline
  · rw [List.mem_singleton.1 hline]
    exact htext

theorem flatten_lines_foldl_newLine (l : Layout) (texts : List (List Char)) :
    (texts.foldl newLine l).lines.flatten = l.lines.flatten ++ texts.flatten := by
  induction texts generalizing l with
  | nil => simp
  | cons text texts ih => rw [List.foldl_cons, ih, lines_newLine]; simp

theorem Sound.foldl_newLine {texts : List (List Char)} (h : l.Sound width)
    (htexts : ∀ text ∈ texts, cells text ≤ width) : (texts.foldl Layout.newLine l).Sound width := by
  induction texts generalizing l with
  | nil => exact h
  | cons text texts ih =>
    rw [List.foldl_cons]
    apply ih
    · exact h.newLine (fits_of_cells_le (htexts text (by simp)))
    · exact fun text htext ↦ htexts text (by simp [htext])

/-- A word is placed behind what is there, and the lines still fit. -/
theorem Sound.place (h : l.Sound width) (hwidth : 2 ≤ width) (hw : w.EndsBlank) :
    (l.place width w).lines.flatten = l.lines.flatten ++ w.chars ∧
      (l.place width w).Sound width := by
  unfold Layout.place
  split
  case isTrue hroom =>
    rw [h.filled] at hroom
    refine ⟨by simp [lines_eq], ?_⟩
    have hfilled : l.filled + cells w.chars = cells (l.current ++ w.chars) := by
      rw [cells_append, h.filled]
    rw [hfilled]
    exact h.setCurrent (fits_append_chars hw hroom)
  case isFalse hroom =>
  split
  case isTrue hlong =>
    obtain ⟨piece, pieces, hchop, hjoined, hpiece, hpieces⟩ := chop_spec hwidth width w.chars
    simp only [hchop]
    have hfits : Fits width piece := fits_of_cells_le hpiece
    split
    case isTrue hempty =>
      rw [Layout.isEmpty, Bool.and_eq_true, List.isEmpty_iff, List.isEmpty_iff] at hempty
      refine ⟨?_, (h.setCurrent hfits).foldl_newLine hpieces⟩
      rw [flatten_lines_foldl_newLine, ← hjoined, lines_eq, lines_eq, hempty.1, hempty.2]
      simp
    case isFalse =>
      refine ⟨?_, (h.newLine hfits).foldl_newLine hpieces⟩
      rw [flatten_lines_foldl_newLine, lines_newLine, ← hjoined]
      simp
  case isFalse hshort =>
  have htext : Fits width w.chars := ⟨w.text, w.blanks, rfl, by omega, hw⟩
  split
  case isTrue =>
    refine ⟨by simp [lines_newLine], h.newLine htext⟩
  -- A word that is not too long fits into a line with nothing in it.
  case isFalse hfilled => exact absurd hroom (by omega)

/-- Placing words loses no character, and no line gets too wide. -/
theorem Sound.foldl_place {ws : List Word} (h : l.Sound width) (hwidth : 2 ≤ width)
    (hws : ∀ w ∈ ws, w.EndsBlank) :
    (ws.foldl (Layout.place width) l).lines.flatten = l.lines.flatten ++ ws.flatMap Word.chars ∧
      (ws.foldl (Layout.place width) l).Sound width := by
  induction ws generalizing l with
  | nil => exact ⟨by simp, h⟩
  | cons w ws ih =>
    obtain ⟨hlines, hsound⟩ := h.place hwidth (hws w (by simp))
    obtain ⟨hrest, hsound'⟩ := ih hsound fun w hw ↦ hws w (by simp [hw])
    refine ⟨?_, hsound'⟩
    rw [List.foldl_cons, hrest, hlines, List.flatMap_cons, List.append_assoc]

end Layout

/-- The lines that a line is broken into make it up, and all of them fit. -/
theorem breakLine_spec (hwidth : 2 ≤ width) (line : List Char) :
    (breakLine width line).flatten = line ∧ ∀ part ∈ breakLine width line, Fits width part := by
  have hblank (hempty : lineWords line = []) (hline : ∀ c ∈ line, Text.isBlank c = true) :
      (breakLine width line).flatten = line ∧ ∀ part ∈ breakLine width line, Fits width part := by
    simp only [breakLine, hempty]
    refine ⟨by simp, ?_⟩
    intro part hpart
    obtain rfl := List.mem_singleton.1 hpart
    exact fits_of_blank hline
  rcases lineWords_spec line with ⟨hempty, hline⟩ | ⟨hchars, hblanks⟩
  · exact hblank hempty hline
  · cases hwords : lineWords line with
    | nil =>
      rw [hwords] at hchars
      exact hblank hwords (by rw [← hchars]; exact nofun)
    | cons w ws =>
      rw [hwords] at hchars hblanks
      obtain ⟨hlines, hsound⟩ := Layout.sound_empty.foldl_place hwidth hblanks
      simp only [breakLine, hwords]
      refine ⟨?_, hsound.fits⟩
      rw [hlines, hchars]
      rfl

/-! ## Cutting off the end -/

theorem Fits.take (h : Fits width line) (n : ℕ) : Fits width (line.take n) := by
  obtain ⟨body, blanks, rfl, hbody, hblanks⟩ := h
  refine ⟨body.take n, blanks.take (n - body.length), List.take_append, ?_, ?_⟩
  · have hsplit : cells (body.take n) + cells (body.drop n) = cells body := by
      rw [← cells_append, List.take_append_drop]
    omega
  · exact fun c hc ↦ hblanks c (List.mem_of_mem_take hc)

theorem isBlank_of_mem_drop {n : ℕ} (h : n ≤ (line.reverse.takeWhile Text.isBlank).length) :
    ∀ c ∈ line.drop (line.length - n), Text.isBlank c = true := by
  intro c hc
  have hend : (line.drop (line.length - n)).reverse =
      (line.reverse.takeWhile Text.isBlank).take n :=
    calc
      (line.drop (line.length - n)).reverse = line.reverse.take n := List.take_reverse.symm
      _ = (line.reverse.takeWhile Text.isBlank ++ line.reverse.dropWhile Text.isBlank).take n := by
        rw [List.takeWhile_append_dropWhile]
      _ = (line.reverse.takeWhile Text.isBlank).take n := List.take_append_of_le_length h
  have hmem : c ∈ (line.reverse.takeWhile Text.isBlank).take n := by
    rw [← hend]
    exact List.mem_reverse.2 hc
  exact List.mem_takeWhile_imp (List.mem_of_mem_take hmem)

theorem words_dropExcess (width : ℕ) (line : List Char) :
    Text.words (dropExcess width line) = Text.words line := by
  have hcount := min_le_left (line.reverse.takeWhile Text.isBlank).length (line.length - width)
  have hsplit := Text.words_append_blanks (isBlank_of_mem_drop hcount) (dropExcess width line)
  rw [dropExcess, List.take_append_drop] at hsplit
  exact hsplit.symm

theorem mem_takeCells (h : c ∈ takeCells room cs) : c = ' ' ∨ c ∈ cs := by
  induction cs generalizing room with
  | nil => exact .inr h
  | cons d cs ih =>
    rw [takeCells] at h
    split at h
    · rcases List.mem_cons.1 h with rfl | h
      · exact .inr List.mem_cons_self
      · exact (ih h).imp_right (List.mem_cons_of_mem d)
    · split at h
      · exact .inl (List.mem_singleton.1 h)
      · cases h

theorem takeCells_append (h : cells cs ≤ room) (ds : List Char) :
    takeCells room (cs ++ ds) = cs ++ takeCells (room - cells cs) ds := by
  induction cs generalizing room with
  | nil => rfl
  | cons c cs ih =>
    rw [cells_cons] at h
    rw [List.cons_append, takeCells, if_pos (by omega), ih (by omega), cells_cons, Nat.sub_sub,
      List.cons_append]

/-- Cutting a line that fits cuts only blanks. -/
theorem Fits.words_takeCells (h : Fits width line) :
    Text.words (takeCells width line) = Text.words line := by
  obtain ⟨body, blanks, rfl, hbody, hblanks⟩ := h
  have hcut : ∀ c ∈ takeCells (width - cells body) blanks, Text.isBlank c = true := by
    intro c hc
    rcases mem_takeCells hc with rfl | hc
    · decide
    · exact hblanks c hc
  rw [takeCells_append hbody, Text.words_append_blanks hcut, Text.words_append_blanks hblanks]

/-- What is cut off at the end of a line belongs to no word. -/
theorem Fits.words_fitLine (h : Fits width line) :
    Text.words (fitLine width line) = Text.words line := by
  have hfits : Fits width (dropExcess width line) := h.take _
  unfold fitLine
  dsimp only
  split
  · rw [hfits.words_takeCells, words_dropExcess]
  · exact words_dropExcess width line

theorem Fits.ink_fitLine (h : Fits width line) : ink (fitLine width line) = ink line := by
  rw [← flatten_words, h.words_fitLine, flatten_words]

/-! ## Whole texts -/

/-- Wrapping a line changes its blanks only. -/
theorem flatMap_ink_wrapLine (hwidth : 2 ≤ width) (line : List Char) :
    (wrapLine width line).flatMap ink = ink line := by
  obtain ⟨hjoined, hfits⟩ := breakLine_spec hwidth line
  calc
    (wrapLine width line).flatMap ink
        = (breakLine width line).flatMap fun part ↦ ink (fitLine width part) := by
          rw [wrapLine, List.flatMap_map]
    _ = (breakLine width line).flatMap ink :=
          List.flatMap_congr fun part hpart ↦ (hfits part hpart).ink_fitLine
    _ = ink line := by rw [← ink_flatten, hjoined]

/-- Layout keeps all characters but blanks. -/
theorem ink_layOut (hwidth : 2 ≤ width) (text : List Char) :
    ink (layOut width text).toList = ink text := by
  have hline (line : List Char) : ink (line ++ ['\n']) = ink line := by
    rw [ink_append, ink_cons_of_isBlank (by decide), ink_nil, List.append_nil]
  rw [layOut, String.toList_ofList, ink_flatMap]
  simp only [hline]
  rw [wrap, List.flatMap_assoc]
  simp only [flatMap_ink_wrapLine hwidth, ink_expandTabs]
  exact flatMap_ink_splitOn (by decide) text

/-! ## The characters of a line -/

theorem mem_expandTabs {position : ℕ} (h : c ∈ expandTabs position cs) : c = ' ' ∨ c ∈ cs := by
  induction cs generalizing position with
  | nil => exact .inr h
  | cons d cs ih =>
    rw [expandTabs] at h
    split at h
    · rcases List.mem_append.1 h with h | h
      · exact .inl (List.eq_of_mem_replicate h)
      · exact (ih h).imp_right (List.mem_cons_of_mem d)
    · rcases List.mem_cons.1 h with rfl | h
      · exact .inr List.mem_cons_self
      · exact (ih h).imp_right (List.mem_cons_of_mem d)

theorem mem_fitLine (h : c ∈ fitLine width line) : c = ' ' ∨ c ∈ line := by
  have hexcess {d : Char} (hd : d ∈ dropExcess width line) : d ∈ line := List.mem_of_mem_take hd
  unfold fitLine at h
  dsimp only at h
  split at h
  · exact (mem_takeCells h).imp_right hexcess
  · exact .inr (hexcess h)

/-- A line of a text has no other characters than the text, blanks apart. -/
theorem mem_wrap (hwidth : 2 ≤ width) {text : List Char} (hline : line ∈ wrap width text)
    (hc : c ∈ line) : c = ' ' ∨ c ∈ text := by
  obtain ⟨part, hpart, hline⟩ := List.mem_flatMap.1 hline
  obtain ⟨piece, hpiece, rfl⟩ := List.mem_map.1 hline
  have hjoined := (breakLine_spec hwidth (expandTabs 0 part)).1
  rcases mem_fitLine hc with hblank | hc
  · exact .inl hblank
  · have hexpanded : c ∈ expandTabs 0 part := by
      rw [← hjoined]
      exact List.mem_flatten_of_mem hpiece hc
    exact (mem_expandTabs hexpanded).imp_right (Text.mem_of_mem_splitBy hpart)

end ValidatorReader.Terminal
