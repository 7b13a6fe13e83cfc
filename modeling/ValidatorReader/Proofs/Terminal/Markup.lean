import ValidatorReader.Proofs.Terminal.Marks

/-!
# Texts that are shown as they are

A text in markup is shown with all its characters but blanks exactly if it holds no tag, no bracket
behind a backslash, no code that stands for an emoji and no character that rings or moves back. That
nothing else is shown in full rests on the count of marks: each of these is written with some, and
what is shown for it has fewer.
-/

namespace ValidatorReader.Terminal

variable {c : Char} {cs rest content pending before : List Char} {ps : List Piece} {slashes : ℕ}

/-! ## Texts without marks -/

/-- Whether markup holds a tag: brackets around a text without brackets that begins as tags do. -/
def HasTag (cs : List Char) : Prop :=
  ∃ before c body after, cs = before ++ '[' :: (c :: body ++ ']' :: after) ∧
    isTagStart c = true ∧ ∀ d ∈ body, d ≠ '[' ∧ d ≠ ']'

/-- Whether no part of a text means anything else in markup than itself. -/
structure Verbatim (cs : List Char) : Prop where
  no_tag : ¬ HasTag cs
  no_escape : ¬ ['\\', '['] <:+: cs
  no_emoji : replaceCodes 0 cs = cs
  no_control : ∀ c ∈ cs, c.toNat ≠ 7 ∧ c.toNat ≠ 8

/-! ## Tags -/

/-- The content of a tag begins as one and goes up to the first bracket, which closes it. -/
theorem tagContent?_eq_some_iff :
    tagContent? rest = some content ↔
      ∃ c body after, content = c :: body ∧ rest = c :: body ++ ']' :: after ∧
        isTagStart c = true ∧ ∀ d ∈ body, d ≠ '[' ∧ d ≠ ']' := by
  constructor
  · intro h
    cases rest with
    | nil => cases h
    | cons c rest =>
      rw [tagContent?] at h
      split at h
      case isTrue hclosed =>
        rw [Bool.and_eq_true, decide_eq_true_eq] at hclosed
        obtain ⟨after, hafter⟩ := List.head?_eq_some_iff.1 hclosed.2
        refine ⟨c, _, after, (Option.some.inj h).symm, ?_, hclosed.1, ?_⟩
        · rw [List.cons_append, ← hafter,
            List.prefix_iff_eq_append.1 (List.takeWhile_prefix _)]
        · intro d hd
          have hbracket := List.mem_takeWhile_imp hd
          simpa using hbracket
      case isFalse => cases h
  · rintro ⟨c, body, after, rfl, rfl, hstart, hbody⟩
    have htail : (body ++ ']' :: after).takeWhile (fun d ↦ d != '[' && d != ']') = body := by
      rw [List.takeWhile_append_of_pos (fun d hd ↦ by simpa using hbody d hd),
        List.takeWhile_cons_of_neg (by decide), List.append_nil]
    simp [tagContent?, htail, hstart]

/-- A tag begins here or further on. -/
theorem hasTag_cons :
    HasTag (c :: cs) ↔ (c = '[' ∧ ∃ content, tagContent? cs = some content) ∨ HasTag cs := by
  constructor
  · rintro ⟨before, d, body, after, hcs, hstart, hbody⟩
    cases before with
    | nil =>
      obtain ⟨rfl, rfl⟩ := List.cons.inj hcs
      exact .inl ⟨rfl, _, tagContent?_eq_some_iff.2 ⟨d, body, after, rfl, rfl, hstart, hbody⟩⟩
    | cons e before =>
      obtain ⟨-, rfl⟩ := List.cons.inj hcs
      exact .inr ⟨before, d, body, after, rfl, hstart, hbody⟩
  · rintro (⟨rfl, content, hcontent⟩ | ⟨before, d, body, after, rfl, hstart, hbody⟩)
    · obtain ⟨d, body, after, -, rfl, hstart, hbody⟩ := tagContent?_eq_some_iff.1 hcontent
      exact ⟨[], d, body, after, rfl, hstart, hbody⟩
    · exact ⟨c :: before, d, body, after, rfl, hstart, hbody⟩

theorem not_hasTag_nil : ¬ HasTag [] := by
  rintro ⟨before, d, body, after, hcs, -⟩
  cases before <;> cases hcs

/-- The marks in the text of pieces. -/
def textMarks : List Piece → ℕ
  | [] => 0
  | .plain text :: rest => marks text + textMarks rest
  | .tag _ _ _ :: rest => textMarks rest

theorem textMarks_append (ps qs : List Piece) :
    textMarks (ps ++ qs) = textMarks ps + textMarks qs := by
  induction ps with
  | nil => simp [textMarks]
  | cons p ps ih =>
    cases p with
    | plain text => simp [textMarks, ih, Nat.add_assoc]
    | tag position name parameters => simp [textMarks, ih]

theorem textMarks_plainPiece (text : List Char) : textMarks (plainPiece text) = marks text := by
  unfold plainPiece
  split
  case isTrue hempty => rw [List.isEmpty_iff.1 hempty]; rfl
  case isFalse => rfl

/-- A tag, escaped or not, leaves fewer marks than it is written with. -/
theorem textMarks_bracketed (position slashes : ℕ) (content : List Char) :
    textMarks (bracketed position slashes content) < slashes + 1 + marks content := by
  have hslashes : textMarks (plainPiece (List.replicate (slashes / 2) '\\')) = slashes / 2 := by
    rw [textMarks_plainPiece, marks_replicate]
  rw [bracketed, textMarks_append, hslashes]
  split
  case isTrue hodd =>
    have hopen : marks ['['] = 1 := by decide
    have hclose : marks [']'] = 0 := by decide
    rw [textMarks, textMarks, marks_append, marks_cons, hopen, hclose]
    omega
  case isFalse =>
    have htag : textMarks [tagOf (position + slashes) content] = 0 := by
      unfold tagOf
      dsimp only
      split <;> rfl
    rw [htag]
    omega

/-- What scanning a text behind another comes to: without a tag one piece of both, and with a tag
fewer marks than there are in both. -/
def Scanned (ps : List Piece) (before cs : List Char) : Prop :=
  (¬ HasTag cs ∧ ps = plainPiece (before ++ cs)) ∨
    (HasTag cs ∧ textMarks ps < marks before + marks cs)

theorem Scanned.textMarks_le (h : Scanned ps before cs) :
    textMarks ps ≤ marks before + marks cs := by
  rcases h with ⟨-, rfl⟩ | ⟨-, hfewer⟩
  · rw [textMarks_plainPiece, marks_append]
  · exact hfewer.le

/-- A character that begins no tag may as well stand in the text before. -/
theorem Scanned.cons (hhead : ¬ (c = '[' ∧ ∃ content, tagContent? cs = some content))
    (h : Scanned ps (before ++ [c]) cs) : Scanned ps before (c :: cs) := by
  rw [Scanned, hasTag_cons, marks_cons c cs]
  rcases h with ⟨hnone, hps⟩ | ⟨htag, hfewer⟩
  · left
    refine ⟨not_or.2 ⟨hhead, hnone⟩, ?_⟩
    rw [hps, List.append_assoc, List.singleton_append]
  · right
    rw [marks_append] at hfewer
    exact ⟨.inr htag, by omega⟩

/-- At a tag one mark is lost: its bracket, or a backslash in front of it. -/
theorem Scanned.tag (position : ℕ) (hcontent : tagContent? cs = some content)
    (h : Scanned ps [] (cs.drop (content.length + 1))) :
    Scanned (plainPiece pending ++ bracketed position slashes content ++ ps)
      (pending ++ List.replicate slashes '\\') ('[' :: cs) := by
  right
  refine ⟨hasTag_cons.2 (.inl ⟨rfl, content, hcontent⟩), ?_⟩
  obtain ⟨d, body, after, hbody, hcs, -⟩ := tagContent?_eq_some_iff.1 hcontent
  have hafter : cs.drop (content.length + 1) = after := by
    rw [hcs, hbody]
    simp
  have hopen : marks ['['] = 1 := by decide
  have hclose : marks [']'] = 0 := by decide
  have hcount : marks ('[' :: cs) = 1 + marks content + marks after := by
    rw [marks_cons, hopen, hcs, ← hbody, marks_append, marks_cons, hclose]
    omega
  have hbracketed := textMarks_bracketed position slashes content
  have hrest := h.textMarks_le
  rw [hafter, marks_nil] at hrest
  rw [textMarks_append, textMarks_append, textMarks_plainPiece, marks_append, marks_replicate,
    hcount]
  omega

/-- By induction on the text; what was scanned before it is part of the statement. -/
theorem scanned_scan (skip position slashes : ℕ) (pending cs : List Char) :
    Scanned (scan skip position slashes pending cs) (pending ++ List.replicate slashes '\\')
      (cs.drop skip) := by
  induction cs generalizing skip position slashes pending with
  | nil =>
    left
    rw [List.drop_nil, List.append_nil]
    exact ⟨not_hasTag_nil, by cases skip <;> rfl⟩
  | cons c cs ih =>
    cases skip with
    | succ skip => exact ih skip (position + 1) slashes pending
    | zero =>
      rw [List.drop_zero]
      by_cases hslash : c = '\\'
      · subst hslash
        have hhead : ¬ ('\\' = '[' ∧ ∃ content, tagContent? cs = some content) := by simp
        have hscanned := ih 0 (position + 1) (slashes + 1) pending
        rw [List.replicate_succ', ← List.append_assoc] at hscanned
        rw [scan, if_pos rfl]
        exact hscanned.cons hhead
      rw [scan, if_neg hslash]
      cases hcontent : (if c = '[' then tagContent? cs else none) with
      | none =>
        have hhead : ¬ (c = '[' ∧ ∃ content, tagContent? cs = some content) := by
          rintro ⟨rfl, content, hsome⟩
          rw [if_pos rfl, hsome] at hcontent
          cases hcontent
        have hscanned := ih 0 (position + 1) 0 (pending ++ List.replicate slashes '\\' ++ [c])
        rw [List.replicate_zero, List.append_nil] at hscanned
        exact hscanned.cons hhead
      | some content =>
        obtain rfl : c = '[' := by
          by_contra hne
          rw [if_neg hne] at hcontent
          cases hcontent
        rw [if_pos rfl] at hcontent
        exact .tag (position - slashes) hcontent (ih (content.length + 1) (position + 1) 0 [])

/-! ## What is shown for a text -/

/-- Showing pieces makes no marks. -/
theorem marks_showPieces_le {open_ : List String}
    (h : showPieces open_ ps = .ok cs) : marks cs ≤ textMarks ps := by
  induction ps generalizing open_ cs with
  | nil =>
    obtain rfl := Except.ok.inj h
    exact le_rfl
  | cons p ps ih =>
    cases p with
    | plain text =>
      rw [showPieces] at h
      cases hrest : showPieces open_ ps with
      | error e =>
        rw [hrest] at h
        cases h
      | ok shown =>
        rw [hrest] at h
        obtain rfl := Except.ok.inj h
        have htext := marks_shownText_le text
        have hshown := ih hrest
        rw [marks_append, textMarks]
        omega
    | tag position name parameters =>
      rw [showPieces] at h
      cases hnext : applyTag position name parameters open_ with
      | error e =>
        rw [hnext] at h
        cases h
      | ok next =>
        rw [hnext] at h
        exact ih h

theorem shownText_of_verbatim (h : Verbatim cs) : ink (shownText cs) = ink cs := by
  have hunescape : unescapeBrackets cs = cs := by
    rcases unescapeBrackets_spec cs with ⟨-, hsame⟩ | ⟨hescape, -⟩
    · exact hsame
    · exact absurd hescape h.no_escape
  rw [shownText, hunescape, h.no_emoji, ink_filter_isControl h.no_control]

/-- Text without a tag is verbatim if all its marks are shown. -/
theorem verbatim_of_marks_eq (hnone : ¬ HasTag cs) (h : marks (shownText cs) = marks cs) :
    Verbatim cs := by
  have hcontrol := marks_filter_isControl_le (replaceCodes 0 (unescapeBrackets cs))
  have hcodes : marks (replaceCodes 0 (unescapeBrackets cs)) ≤ marks (unescapeBrackets cs) :=
    (reduced_replaceCodes 0 _).marks_le
  have hescapes := marks_unescapeBrackets_le cs
  rw [shownText] at h
  obtain ⟨hescape, hsame⟩ : ¬ ['\\', '['] <:+: cs ∧ unescapeBrackets cs = cs := by
    rcases unescapeBrackets_spec cs with hspec | ⟨-, hfewer⟩
    · exact hspec
    · omega
  rw [hsame] at h hcontrol hcodes
  have hemoji : replaceCodes 0 cs = cs :=
    (reduced_replaceCodes 0 cs).eq_of_marks_le (by rw [List.drop_zero]; omega)
  rw [hemoji] at h
  refine ⟨hnone, hescape, hemoji, ?_⟩
  rcases marks_filter_isControl cs with hspec | hfewer
  · exact hspec
  · omega

theorem shownText_blank (cs : List Char) : shownText (' ' :: cs) = ' ' :: shownText cs := by
  have hunescape : unescapeBrackets (' ' :: cs) = ' ' :: unescapeBrackets cs := rfl
  rw [shownText, hunescape, replaceCodes]
  rfl

theorem ink_blank (cs : List Char) : ink (' ' :: cs) = ink cs :=
  ink_cons_of_isBlank (by decide) cs

/-- A text without brackets, backslashes, colons and control characters is verbatim. -/
theorem verbatim_of_marks_eq_zero (h : marks cs = 0) : Verbatim cs := by
  have hnone : ∀ c ∈ cs, ¬ isMark c = true := List.countP_eq_zero.1 h
  refine ⟨?_, ?_, ?_, ?_⟩
  · rintro ⟨before, c, body, after, rfl, -⟩
    exact hnone '[' (by simp) (by decide)
  · intro hescape
    exact hnone '[' (hescape.subset (by simp)) (by decide)
  · exact (reduced_replaceCodes 0 cs).eq_of_marks_le (by rw [List.drop_zero, h]; omega)
  · intro c hc
    constructor
    · exact fun hbell ↦ hnone c hc (by simp [isMark, hbell])
    · exact fun hback ↦ hnone c hc (by simp [isMark, hback])

/-- What is scanned behind a blank is shown in full exactly if it is verbatim. -/
theorem exists_showPieces_iff_verbatim (position : ℕ) (open_ : List String) (cs : List Char) :
    (∃ shown, showPieces open_ (scan 0 position 0 [' '] cs) = .ok shown ∧ ink shown = ink cs) ↔
      Verbatim cs := by
  have hspec : Scanned (scan 0 position 0 [' '] cs) [' '] cs := scanned_scan 0 position 0 [' '] cs
  have hpiece : showPieces open_ (plainPiece ([' '] ++ cs)) = .ok (' ' :: shownText cs ++ []) := by
    rw [← shownText_blank]
    rfl
  constructor
  · rintro ⟨shown, hshown, hink⟩
    have hmarks : marks shown = marks cs := by rw [← marks_ink, hink, marks_ink]
    rcases hspec with ⟨hnone, hscan⟩ | ⟨-, hfewer⟩
    · rw [hscan, hpiece] at hshown
      obtain rfl := Except.ok.inj hshown
      apply verbatim_of_marks_eq hnone
      calc
        marks (shownText cs) = marks (' ' :: shownText cs ++ []) := by
          rw [List.append_nil, ← marks_ink (' ' :: shownText cs), ink_blank, marks_ink]
        _ = marks cs := hmarks
    · have hle := marks_showPieces_le hshown
      have hblank : marks [' '] = 0 := by decide
      omega
  · intro h
    rcases hspec with ⟨-, hscan⟩ | ⟨htag, -⟩
    · rw [hscan, hpiece]
      refine ⟨_, rfl, ?_⟩
      rw [List.append_nil, ink_blank, shownText_of_verbatim h]
    · exact absurd htag h.no_tag

/-! ## Texts that are shown unchanged -/

/-- Whether no character of a text is a mark or a control character. -/
def Unmarked (cs : List Char) : Prop :=
  ∀ c ∈ cs, isMark c = false ∧ isControl c = false

theorem Unmarked.append {ds : List Char} (h : Unmarked cs) (h' : Unmarked ds) :
    Unmarked (cs ++ ds) := by
  intro c hc
  rcases List.mem_append.1 hc with hc | hc
  · exact h c hc
  · exact h' c hc

theorem Unmarked.notMem_of_isMark (h : Unmarked cs) (hc : isMark c = true) : c ∉ cs := by
  intro hmem
  rw [(h c hmem).1] at hc
  cases hc

theorem Unmarked.marks_eq_zero (h : Unmarked cs) : marks cs = 0 :=
  List.countP_eq_zero.2 fun c hc ↦ by rw [(h c hc).1]; exact Bool.false_ne_true

theorem Unmarked.filter_isControl (h : Unmarked cs) : cs.filter (!isControl ·) = cs := by
  rw [List.filter_eq_self]
  intro c hc
  rw [(h c hc).2]
  rfl

/-- Without marks markup shows a text as it is. -/
theorem plainText_of_unmarked {s : String} (h : Unmarked s.toList) :
    plainText s = .ok s.toList := by
  have hopen : s.toList.contains '[' = false := by
    rw [Bool.eq_false_iff]
    intro hmem
    exact h.notMem_of_isMark (by decide) (List.contains_iff_mem.1 hmem)
  have hcodes : replaceCodes 0 s.toList = s.toList :=
    (verbatim_of_marks_eq_zero h.marks_eq_zero).no_emoji
  simp only [plainText, hopen, Bool.false_eq_true, if_false, hcodes, h.filter_isControl]

theorem replaceCodes_append (h : ':' ∉ cs) (rest : List Char) :
    replaceCodes 0 (cs ++ rest) = cs ++ replaceCodes 0 rest := by
  induction cs with
  | nil => rfl
  | cons c cs ih =>
    have hc : c ≠ ':' := by
      rintro rfl
      exact h List.mem_cons_self
    rw [List.cons_append, replaceCodes, if_neg hc, ih fun hmem ↦ h (List.mem_cons_of_mem c hmem)]
    rfl

/-- A colon before a blank belongs to no code. -/
theorem shownText_label (h : Unmarked cs) : shownText (cs ++ [':', ' ']) = cs ++ [':', ' '] := by
  have hescape : ¬ ['\\', '['] <:+: cs ++ [':', ' '] := by
    intro hwithin
    have hmem : '\\' ∈ cs ++ [':', ' '] := hwithin.subset List.mem_cons_self
    rcases List.mem_append.1 hmem with hmem | hmem
    · exact h.notMem_of_isMark (by decide) hmem
    · exact absurd hmem (by decide)
  have hunescape : unescapeBrackets (cs ++ [':', ' ']) = cs ++ [':', ' '] := by
    rcases unescapeBrackets_spec (cs ++ [':', ' ']) with ⟨-, hsame⟩ | ⟨hwithin, -⟩
    · exact hsame
    · exact absurd hwithin hescape
  have hcodes : replaceCodes 0 (cs ++ [':', ' ']) = cs ++ [':', ' '] :=
    replaceCodes_append (h.notMem_of_isMark (by decide)) [':', ' ']
  rw [shownText, hunescape, hcodes, List.filter_append, h.filter_isControl]
  rfl

theorem shownText_of_unmarked (h : Unmarked cs) : shownText cs = cs := by
  have hunescape : unescapeBrackets cs = cs := by
    rcases unescapeBrackets_spec cs with ⟨-, hsame⟩ | ⟨hwithin, -⟩
    · exact hsame
    · exact absurd (hwithin.subset List.mem_cons_self) (h.notMem_of_isMark (by decide))
  rw [shownText, hunescape, (verbatim_of_marks_eq_zero h.marks_eq_zero).no_emoji,
    h.filter_isControl]

/-- Text before a tag is collected. -/
theorem scan_append {text : List Char} (h : ∀ c ∈ text, c ≠ '\\' ∧ c ≠ '[') (position : ℕ)
    (pending rest : List Char) :
    scan 0 position 0 pending (text ++ rest) =
      scan 0 (position + text.length) 0 (pending ++ text) rest := by
  induction text generalizing position pending with
  | nil => simp
  | cons c text ih =>
    obtain ⟨hslash, hopen⟩ := h c List.mem_cons_self
    rw [List.cons_append, scan, if_neg hslash, if_neg hopen]
    simp only [List.replicate_zero, List.append_nil]
    rw [ih fun d hd ↦ h d (List.mem_cons_of_mem c hd), List.length_cons, List.append_assoc,
      List.singleton_append, Nat.add_assoc, Nat.add_comm 1]

theorem showPieces_plainPiece_append (open_ : List String) (text : List Char) (ps : List Piece) :
    showPieces open_ (plainPiece text ++ ps) =
      (showPieces open_ ps).map (shownText text ++ ·) := by
  cases text with
  | nil =>
    have hnone : plainPiece [] ++ ps = ps := rfl
    rw [hnone]
    cases showPieces open_ ps <;> rfl
  | cons c text => rfl

end ValidatorReader.Terminal
