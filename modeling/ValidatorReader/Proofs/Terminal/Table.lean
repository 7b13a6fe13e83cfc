import ValidatorReader.Proofs.Attempt
import ValidatorReader.Proofs.Terminal.Markup
import ValidatorReader.Terminal.Table

/-!
# Tables that fit

A table whose box is not wider than the terminal has columns as wide as its widest texts: no width
gives way and no text ends in an ellipsis. All lines of the box then have the same width.
-/

namespace ValidatorReader.Terminal

variable {terminal width : ℕ} {c bar : Char} {text line : List Char} {alignment : Alignment}

/-! ## Cells -/

theorem cells_replicate (n : ℕ) (c : Char) : cells (List.replicate n c) = n * charCells c := by
  induction n with
  | zero => simp
  | succ n ih => rw [List.replicate_succ, cells_cons, ih, Nat.succ_mul, Nat.add_comm]

/-- A text of printable ASCII characters takes a cell for each. -/
theorem cells_eq_length (h : ∀ c ∈ text, 0x20 ≤ c.toNat ∧ c.toNat < 0x7f) :
    cells text = text.length := by
  induction text with
  | nil => rfl
  | cons c text ih =>
    have hc : charCells c = 1 := by
      obtain ⟨hlow, hhigh⟩ := h c List.mem_cons_self
      simp [charCells, hlow, hhigh]
    rw [cells_cons, hc, ih fun d hd ↦ h d (List.mem_cons_of_mem c hd), List.length_cons,
      Nat.add_comm]

namespace Table

variable {t : Table} {columns : List (Column × ℕ)} {row : List String}

theorem fitText_of_cells_le (h : cells text ≤ width) : fitText width text = text :=
  if_pos h

theorem cells_pad (alignment : Alignment) (h : cells text ≤ width) :
    cells (pad alignment width text) = width := by
  have hblank : charCells ' ' = 1 := by decide
  cases alignment <;> simp only [pad, cells_append, cells_replicate, hblank] <;> omega

theorem totalWidth_eq_sum (widths : List ℕ) : totalWidth widths = widths.sum := rfl

theorem boxWidth_eq_sum (widths : List ℕ) :
    boxWidth widths = (widths.map (· + 2)).sum + (widths.length + 1) := by
  unfold boxWidth
  induction widths with
  | nil => rfl
  | cons width widths ih =>
    rw [List.foldr_cons, ih, List.map_cons, List.sum_cons, List.length_cons]
    omega

/-- A row has the width of the box if each text fits into its column. -/
theorem cells_rowLine (hbar : charCells bar = 1)
    (h : List.Forall₂ (fun column text ↦ cells text.toList ≤ column.2) columns row) :
    cells (rowLine bar columns row) = boxWidth (columns.map Prod.snd) := by
  have hblank : charCells ' ' = 1 := by decide
  unfold rowLine
  rw [cells_cons, hbar]
  induction h with
  | nil => rfl
  | @cons column text columns row hfits _ ih =>
    rw [List.zip_cons_cons, List.flatMap_cons, cells_append, List.map_cons, boxWidth,
      List.foldr_cons, ← boxWidth, ← ih]
    simp only [List.cons_append, cells_cons, cells_append, cells_nil, fitText_of_cells_le hfits,
      cells_pad column.1.alignment hfits, hblank, hbar]
    omega

/-- Whether the characters of a rule take one cell each. -/
structure Rule.Narrow (r : Rule) : Prop where
  left : charCells r.left = 1
  crossing : charCells r.crossing = 1
  right : charCells r.right = 1
  line : charCells r.line = 1

theorem narrow_topRule : topRule.Narrow := by
  constructor <;> decide +kernel

theorem narrow_headRule : headRule.Narrow := by
  constructor <;> decide +kernel

theorem narrow_bottomRule : bottomRule.Narrow := by
  constructor <;> decide +kernel

theorem cells_ruleLine {r : Rule} (hr : r.Narrow) {widths : List ℕ} (h : widths ≠ []) :
    cells (ruleLine widths r) = boxWidth widths := by
  obtain ⟨hleft, hcrossing, hright, hline⟩ := hr
  have hinner : cells ([r.crossing].intercalate
      (widths.map fun w ↦ List.replicate (w + 2) r.line)) + 2 = boxWidth widths := by
    induction widths with
    | nil => exact absurd rfl h
    | cons width widths ih =>
      cases widths with
      | nil => simp [boxWidth, cells_replicate, hline]
      | cons next widths =>
        have hrest := ih (List.cons_ne_nil next widths)
        rw [List.map_cons, List.map_cons, List.intercalate_cons_cons, ← List.map_cons (f := fun w ↦
          List.replicate (w + 2) r.line), cells_append, cells_append, cells_replicate, hline]
        rw [boxWidth, List.foldr_cons, ← boxWidth, ← hrest]
        simp only [cells_cons, cells_nil, hcrossing]
        omega
  rw [ruleLine, cells_append, cells_cons, hleft, cells_cons, hright, cells_nil, ← hinner]
  omega

/-! ## Widths -/

theorem foldl_max_le_iff {α : Type} {f : α → ℕ} {xs : List α} {init k : ℕ} :
    xs.foldl (fun width x ↦ max width (f x)) init ≤ k ↔ init ≤ k ∧ ∀ x ∈ xs, f x ≤ k := by
  induction xs generalizing init with
  | nil => simp
  | cons x xs ih => rw [List.foldl_cons, ih, max_le_iff, List.forall_mem_cons, and_assoc]

theorem columnWidth_le_iff {index k : ℕ} {column : Column} :
    t.columnWidth index column ≤ k ↔
      cells column.header.toList ≤ k ∧ ∀ row ∈ t.rows, cells (row.getD index "").toList ≤ k := by
  rw [columnWidth, foldl_max_le_iff, List.forall_mem_cons, List.forall_mem_map]
  simp

theorem header_le_columnWidth (t : Table) (index : ℕ) (column : Column) :
    cells column.header.toList ≤ t.columnWidth index column :=
  (columnWidth_le_iff.1 le_rfl).1

theorem cell_le_columnWidth (hrow : row ∈ t.rows) (index : ℕ) (column : Column) :
    cells (row.getD index "").toList ≤ t.columnWidth index column :=
  (columnWidth_le_iff.1 le_rfl).2 row hrow

@[simp] theorem length_naturalWidths (t : Table) :
    t.naturalWidths.length = t.columns.length := List.length_mapIdx

theorem narrow_of_le {room : ℕ} {widths : List ℕ} (h : totalWidth widths ≤ room) (steps : ℕ) :
    narrow room steps widths = widths := by
  cases steps with
  | zero => rfl
  | succ steps => exact if_pos (.inl (Nat.sub_eq_zero_of_le h))

/-- No width gives way if the box is not too wide. -/
theorem widths_of_boxWidth_le (h : boxWidth t.naturalWidths ≤ terminal) :
    t.widths terminal = t.naturalWidths := by
  rw [boxWidth_eq_sum, length_naturalWidths] at h
  have hroom : totalWidth (t.naturalWidths.map (· + 2)) ≤ terminal - (t.columns.length + 1) := by
    rw [totalWidth_eq_sum]
    omega
  have hpadded : (t.naturalWidths.map fun width ↦
      min (width + 2) (terminal - (t.columns.length + 1))) = t.naturalWidths.map (· + 2) := by
    apply List.map_congr_left
    intro width hwidth
    exact min_eq_left ((List.le_sum_of_mem (List.mem_map_of_mem hwidth)).trans hroom)
  simp only [widths, hpadded, narrow_of_le hroom, List.map_map]
  exact List.map_id'' (fun width ↦ Nat.add_sub_cancel width 2) _

/-! ## Markup -/

/-- Whether all texts of a table are without marks. -/
structure Unmarked (t : Table) : Prop where
  title : Terminal.Unmarked t.title.toList
  headers : ∀ column ∈ t.columns, Terminal.Unmarked column.header.toList
  cells : ∀ row ∈ t.rows, ∀ text ∈ row, Terminal.Unmarked text.toList

theorem shownCell_of_unmarked {s : String} (h : Terminal.Unmarked s.toList) :
    shownCell s = .ok s := by
  rw [shownCell, plainText_of_unmarked h, Except.map, String.ofList_toList]

theorem mapM_eq_self {α ε : Type} {f : α → Except ε α} {xs : List α}
    (h : ∀ x ∈ xs, f x = .ok x) : xs.mapM f = .ok xs :=
  Attempt.mapM_eq_ok_iff.2 (List.forall₂_same.2 h)

theorem Unmarked.shown (h : t.Unmarked) : t.shown = .ok t := by
  have hcolumns : t.columns.mapM shownColumn = .ok t.columns := by
    apply mapM_eq_self
    intro column hcolumn
    rw [shownColumn, shownCell_of_unmarked (h.headers column hcolumn)]
    rfl
  have hrows : t.rows.mapM (fun row ↦ row.mapM shownCell) = .ok t.rows := by
    apply mapM_eq_self
    intro row hrow
    exact mapM_eq_self fun text htext ↦ shownCell_of_unmarked (h.cells row hrow text htext)
  rw [Table.shown, hcolumns, hrows, shownCell_of_unmarked h.title]
  rfl

/-! ## Whole tables -/

/-- The lines of a table below its title, as its texts need them. -/
def boxLines (t : Table) : List (List Char) :=
  let columns := t.columns.zip t.naturalWidths
  [ruleLine t.naturalWidths topRule, rowLine '┃' columns (t.columns.map Column.header),
    ruleLine t.naturalWidths headRule] ++
    t.rows.map (rowLine '│' columns) ++ [ruleLine t.naturalWidths bottomRule]

/-- A table without marks is shown as it is written. -/
theorem render_of_unmarked (terminal : ℕ) (unmarked : t.Unmarked) :
    t.render terminal = .ok (String.ofList ((t.lines terminal).flatMap fun line ↦ line ++ ['\n'])) := by
  rw [render, unmarked.shown]
  rfl

/-- A table that fits has its title over a box that shows all its texts. -/
theorem lines_of_fits (fits : boxWidth t.naturalWidths ≤ terminal) :
    t.lines terminal = titleLines (boxWidth t.naturalWidths) t.title ++ t.boxLines := by
  simp only [lines, widths_of_boxWidth_le fits, boxLines, List.append_assoc]

/-! ## The characters of a line -/

theorem mem_pad (h : c ∈ pad alignment width text) : c = ' ' ∨ c ∈ text := by
  cases alignment
  · rcases List.mem_append.1 h with h | h
    · exact .inr h
    · exact .inl (List.eq_of_mem_replicate h)
  · rcases List.mem_append.1 h with h | h
    · exact .inl (List.eq_of_mem_replicate h)
    · exact .inr h

theorem mem_fitText (h : c ∈ fitText width text) : c = ' ' ∨ c = '…' ∨ c ∈ text := by
  unfold fitText at h
  split at h
  · exact .inr (.inr h)
  · rcases List.mem_append.1 h with h | h
    · exact (mem_takeCells h).imp_right .inr
    · exact .inr (.inl (List.mem_singleton.1 h))

/-- A row has no other characters than its bars and its texts, blanks and ellipses apart. -/
theorem mem_rowLine (h : c ∈ rowLine bar columns row) :
    c = bar ∨ c = ' ' ∨ c = '…' ∨ ∃ text ∈ row, c ∈ text.toList := by
  unfold rowLine at h
  rcases List.mem_cons.1 h with rfl | h
  · exact .inl rfl
  obtain ⟨⟨⟨column, width⟩, text⟩, hpair, hc⟩ := List.mem_flatMap.1 h
  rcases List.mem_append.1 hc with hc | hc
  · rcases List.mem_cons.1 hc with rfl | hc
    · exact .inr (.inl rfl)
    · rcases mem_pad hc with rfl | hc
      · exact .inr (.inl rfl)
      · have htext := mem_fitText hc
        exact .inr (htext.imp_right (.imp_right fun hmem ↦ ⟨text, (List.of_mem_zip hpair).2, hmem⟩))
  · rcases List.mem_cons.1 hc with rfl | hc
    · exact .inr (.inl rfl)
    · exact .inl (List.mem_singleton.1 hc)

theorem mem_intercalate_replicate {crossing dash : Char} {widths : List ℕ}
    (h : c ∈ [crossing].intercalate (widths.map fun w ↦ List.replicate (w + 2) dash)) :
    c = crossing ∨ c = dash := by
  induction widths with
  | nil => cases h
  | cons width widths ih =>
    cases widths with
    | nil =>
      rw [List.map_singleton, List.intercalate_singleton] at h
      exact .inr (List.eq_of_mem_replicate h)
    | cons next widths =>
      rw [List.map_cons, List.map_cons, List.intercalate_cons_cons, ← List.map_cons (f := fun w ↦
        List.replicate (w + 2) dash)] at h
      rcases List.mem_append.1 h with h | h
      · rcases List.mem_append.1 h with h | h
        · exact .inr (List.eq_of_mem_replicate h)
        · exact .inl (List.mem_singleton.1 h)
      · exact ih h

theorem mem_ruleLine {widths : List ℕ} {r : Rule} (h : c ∈ ruleLine widths r) :
    c = r.left ∨ c = r.crossing ∨ c = r.line ∨ c = r.right := by
  rcases List.mem_append.1 h with h | h
  · rcases List.mem_cons.1 h with rfl | h
    · exact .inl rfl
    · exact .inr ((mem_intercalate_replicate h).imp_right .inl)
  · exact .inr (.inr (.inr (List.mem_singleton.1 h)))

/-- The lines of a title have no other characters than the title, blanks apart. -/
theorem mem_titleLines (hwidth : 2 ≤ width) {title : String}
    (hline : line ∈ titleLines width title) (hc : c ∈ line) : c = ' ' ∨ c ∈ title.toList := by
  obtain ⟨whole, hwhole, rfl⟩ := List.mem_map.1 hline
  unfold centre at hc
  rcases mem_pad hc with hblank | hc
  · exact .inl hblank
  rcases List.mem_append.1 hc with hc | hc
  · exact .inl (List.eq_of_mem_replicate hc)
  · have hmem : c ∈ whole.reverse :=
      (List.dropWhile_suffix _).subset (List.mem_reverse.1 hc)
    exact mem_wrap hwidth hwhole (List.mem_reverse.1 hmem)

/-! ## The width of a box -/

/-- Each text of a row fits into its column. -/
theorem forall₂_of_mem_rows (hrow : row ∈ t.rows) (hlength : row.length = t.columns.length) :
    List.Forall₂ (fun column text ↦ cells text.toList ≤ column.2)
      (t.columns.zip t.naturalWidths) row := by
  rw [List.forall₂_iff_get]
  refine ⟨by simp [hlength], ?_⟩
  intro index hindex hcell
  have hindex' : index < t.columns.length := hlength ▸ hcell
  simpa [naturalWidths, hcell] using cell_le_columnWidth hrow index t.columns[index]

theorem forall₂_headers (t : Table) :
    List.Forall₂ (fun column text ↦ cells text.toList ≤ column.2)
      (t.columns.zip t.naturalWidths) (t.columns.map Column.header) := by
  rw [List.forall₂_iff_get]
  refine ⟨by simp, ?_⟩
  intro index hindex hheader
  simpa [naturalWidths] using header_le_columnWidth t index _

/-- All lines of a box have its width. -/
theorem cells_of_mem_boxLines (hcolumns : t.columns ≠ [])
    (hrows : ∀ row ∈ t.rows, row.length = t.columns.length) (hline : line ∈ t.boxLines) :
    cells line = boxWidth t.naturalWidths := by
  have hnonempty : t.naturalWidths ≠ [] := by
    rw [Ne, ← List.length_eq_zero_iff, length_naturalWidths, List.length_eq_zero_iff]
    exact hcolumns
  have hsnd : (t.columns.zip t.naturalWidths).map Prod.snd = t.naturalWidths :=
    List.map_snd_zip t.length_naturalWidths.le
  have hrule {r : Rule} (hr : r.Narrow) :
      cells (ruleLine t.naturalWidths r) = boxWidth t.naturalWidths := cells_ruleLine hr hnonempty
  simp only [boxLines, List.mem_append, List.mem_cons, List.not_mem_nil, or_false,
    List.mem_map] at hline
  rcases hline with ((rfl | rfl | rfl) | ⟨row, hrow, rfl⟩) | rfl
  · exact hrule narrow_topRule
  · rw [cells_rowLine (by decide +kernel) t.forall₂_headers, hsnd]
  · exact hrule narrow_headRule
  · rw [cells_rowLine (by decide +kernel) (forall₂_of_mem_rows hrow (hrows row hrow)), hsnd]
  · exact hrule narrow_bottomRule

end Table

end ValidatorReader.Terminal
