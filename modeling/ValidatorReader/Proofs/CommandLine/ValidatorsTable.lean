import ValidatorReader.Proofs.CommandLine.Answers

/-!
# The table of the validators

The texts of the table are short: an index has at most thirty-one figures and an address forty-two
characters, so that the box is never wider than the terminal. So each validator has a line of its own,
with its index and its address in full, from which the address is read back. The title is as long as
the block number makes it and does not count for the box.
-/

namespace ValidatorReader.CommandLine

open Node (plainTransaction one returning)
open Terminal (IsPlain cells)
open Terminal.Table (boxWidth cell_le_columnWidth fitText fitText_of_cells_le pad rowLine)

variable {env : Environment} {node : Node} {args : List String} {options : List (String × String)}
  {settings : Settings} {a : Address} {as : List Address} {b : ℕ} {block : ℤ} {c : Char}
  {line : List Char}

/-! ## What is printed -/

def Report.lines (r : Report) : List (List Char) :=
  (Text.splitOn '\n' r.stdout.toList).dropLast

/-- The lines of a table that stand between light bars, one for each row. -/
def Report.bodyRows (r : Report) : List (List Char) :=
  r.lines.filter fun line ↦ line.head? = some '│'

/-- The line of a validator: its index on the right of a column, and its address with the checksum. -/
def validatorLine (width index : ℕ) (a : Address) : List Char :=
  "│ ".toList ++ (List.replicate (width - (toString index).length) ' ' ++ (toString index).toList) ++
    " │ ".toList ++ a.toChecksum.toList ++ " │".toList

/-- The address in the line of a validator, behind the second bar. -/
def namedAddress (line : List Char) : Except AddressError Address :=
  Address.ofText (String.ofList ((Text.words line).getD 3 []))

/-- The line below the box if there are no validators. -/
def noticeLines (as : List Address) : List (List Char) :=
  if as.isEmpty then [emptyNotice.toList] else []

/-- Whether a run ends well and shows addresses as a table: a line for each of them in order, all of
one width within the terminal, and a notice behind the bottom of the box if there are none. -/
structure ShowsValidators (r : Report) (as : List Address) : Prop where
  exitCode : r.exitCode = 0
  escaped : r.escaped = none
  stderr : r.stderr = ""
  rows : ∃ width, (∀ index < as.length, (toString index).length ≤ width) ∧
    r.bodyRows = as.mapIdx (validatorLine width)
  box : ∃ title box, r.lines = title ++ box ++ noticeLines as ∧
    emptyNotice.toList ∉ title ++ box ∧ box.getLast?.bind List.head? = some '└' ∧
    r.bodyRows ⊆ box ∧ ∃ total ≤ terminalWidth, ∀ line ∈ box, cells line = total
  readBack : r.bodyRows.mapM namedAddress = .ok as

/-! ## Widths -/

def indexWidth (block : ℤ) (as : List Address) : ℕ :=
  (validatorsTable block as).columnWidth 0 ⟨"#", .right⟩

def addressWidth (block : ℤ) (as : List Address) : ℕ :=
  (validatorsTable block as).columnWidth 1 ⟨"Address", .left⟩

theorem naturalWidths_validatorsTable (block : ℤ) (as : List Address) :
    (validatorsTable block as).naturalWidths = [indexWidth block as, addressWidth block as] := rfl

theorem cells_toChecksum (a : Address) : cells a.toChecksum.toList = 42 := by
  rw [Terminal.cells_of_isPlain a.isPlain_toChecksum, a.length_toChecksum]

theorem length_toString_le {index : ℕ} (hindex : index < as.length) (hlength : as.length ≤ 10 ^ 31) :
    (toString index).length ≤ 31 := by
  rw [← String.length_toList, Number.toList_toString,
    Nat.length_toDigits_le_iff (by decide) (by decide)]
  exact hindex.trans_le hlength

theorem indexWidth_le (block : ℤ) (hlength : as.length ≤ 10 ^ 31) :
    indexWidth block as ≤ 31 := by
  rw [indexWidth, Terminal.Table.columnWidth_le_iff]
  refine ⟨by decide, ?_⟩
  intro row hrow
  obtain ⟨index, a, ha, rfl⟩ := exists_of_mem_rows hrow
  rw [List.getD_cons_zero, cells_toString]
  exact length_toString_le (List.getElem?_eq_some_iff.1 ha).1 hlength

theorem addressWidth_le (block : ℤ) (as : List Address) : addressWidth block as ≤ 42 := by
  rw [addressWidth, Terminal.Table.columnWidth_le_iff]
  refine ⟨by decide, ?_⟩
  intro row hrow
  obtain ⟨index, a, _, rfl⟩ := exists_of_mem_rows hrow
  rw [List.getD_cons_succ, List.getD_cons_zero, cells_toChecksum]

/-- The box is not wider than the terminal. -/
theorem boxWidth_le (block : ℤ) (hlength : as.length ≤ 10 ^ 31) :
    boxWidth (validatorsTable block as).naturalWidths ≤ terminalWidth := by
  have hindex := indexWidth_le block hlength
  have haddress := addressWidth_le block as
  rw [naturalWidths_validatorsTable]
  simp only [boxWidth, List.foldr_cons, List.foldr_nil, terminalWidth]
  omega

/-! ## Rows -/

/-- The line of a validator, its blanks written out. -/
theorem validatorLine_eq (width index : ℕ) (a : Address) :
    validatorLine width index a =
      ['│'] ++ ' ' :: (List.replicate (width - (toString index).length) ' ' ++
        ((toString index).toList ++ ' ' :: (['│'] ++ ' ' :: (a.toChecksum.toList ++
          ' ' :: ['│'])))) := by
  have hleft : "│ ".toList = ['│', ' '] := by decide
  have hmiddle : " │ ".toList = [' ', '│', ' '] := by decide
  have hright : " │".toList = [' ', '│'] := by decide
  simp only [validatorLine, hleft, hmiddle, hright, List.append_assoc, List.cons_append,
    List.nil_append]

/-- A row whose texts fit is the line of its validator. -/
theorem rowLine_eq_validatorLine {width index : ℕ} (hindex : (toString index).length ≤ width)
    (a : Address) :
    rowLine '│' [(⟨"#", .right⟩, width), (⟨"Address", .left⟩, 42)] [toString index, a.toChecksum] =
      validatorLine width index a := by
  have hfits : cells (toString index).toList ≤ width := (cells_toString index).trans_le hindex
  have hindexText : pad .right width (fitText width (toString index).toList) =
      List.replicate (width - (toString index).length) ' ' ++ (toString index).toList := by
    rw [fitText_of_cells_le hfits, pad, cells_toString]
  have haddressText : pad .left 42 (fitText 42 a.toChecksum.toList) = a.toChecksum.toList := by
    rw [fitText_of_cells_le (cells_toChecksum a).le, pad, cells_toChecksum, Nat.sub_self,
      List.replicate_zero, List.append_nil]
  rw [rowLine, List.zip_cons_cons, List.zip_cons_cons, List.zip_nil_right, List.flatMap_cons,
    List.flatMap_cons, List.flatMap_nil]
  dsimp only
  rw [hindexText, haddressText, validatorLine_eq]
  simp only [List.append_assoc, List.cons_append, List.nil_append]

theorem rows_validatorsTable (block : ℤ) (as : List Address) :
    (validatorsTable block as).rows = as.mapIdx fun index a ↦ [toString index, a.toChecksum] := rfl

def sizedColumns (block : ℤ) (as : List Address) : List (Terminal.Column × ℕ) :=
  (validatorsTable block as).columns.zip (validatorsTable block as).naturalWidths

theorem length_toString_le_indexWidth {index : ℕ} (h : as[index]? = some a) (block : ℤ) :
    (toString index).length ≤ indexWidth block as := by
  obtain ⟨hindex, rfl⟩ := List.getElem?_eq_some_iff.1 h
  have hrow : [toString index, as[index].toChecksum] ∈ (validatorsTable block as).rows :=
    List.mem_mapIdx.2 ⟨index, hindex, rfl⟩
  have hwidth := cell_le_columnWidth hrow 0 ⟨"#", .right⟩
  rwa [List.getD_cons_zero, cells_toString] at hwidth

/-- A row is shown in one line, with neither index nor address cut. -/
theorem rowLine_of_getElem? {index : ℕ} (h : as[index]? = some a) (block : ℤ) :
    rowLine '│' (sizedColumns block as) [toString index, a.toChecksum] =
      validatorLine (indexWidth block as) index a := by
  obtain ⟨hindex, ha⟩ := List.getElem?_eq_some_iff.1 h
  have hrow : [toString index, a.toChecksum] ∈ (validatorsTable block as).rows :=
    List.mem_mapIdx.2 ⟨index, hindex, by rw [ha]⟩
  have haddress : addressWidth block as = 42 := by
    apply (addressWidth_le block as).antisymm
    have hwidth := cell_le_columnWidth hrow 1 ⟨"Address", .left⟩
    rwa [List.getD_cons_succ, List.getD_cons_zero, cells_toChecksum] at hwidth
  have hcolumns : sizedColumns block as =
      [(⟨"#", .right⟩, indexWidth block as), (⟨"Address", .left⟩, 42)] := by
    rw [sizedColumns, columns_validatorsTable, naturalWidths_validatorsTable, haddress]
    rfl
  rw [hcolumns]
  exact rowLine_eq_validatorLine (length_toString_le_indexWidth h block) a

/-- The lines between the bars of the box are those of the validators. -/
theorem map_rowLine_rows (block : ℤ) (as : List Address) :
    (validatorsTable block as).rows.map (rowLine '│' (sizedColumns block as)) =
      as.mapIdx (validatorLine (indexWidth block as)) := by
  rw [rows_validatorsTable]
  apply List.ext_getElem
  · rw [List.length_map, List.length_mapIdx, List.length_mapIdx]
  · intro index _ _
    rw [List.getElem_map, List.getElem_mapIdx, List.getElem_mapIdx]
    exact rowLine_of_getElem? (List.getElem?_eq_getElem _) block

/-- The address in the line of a validator is read back. -/
theorem namedAddress_validatorLine (width index : ℕ) (a : Address) :
    namedAddress (validatorLine width index a) = .ok a := by
  have hbar : ∀ c ∈ ['│'], Text.isBlank c = false := by simp [Text.isBlank]
  have hindex : ∀ c ∈ (toString index).toList, Text.isBlank c = false :=
    fun c hc ↦ isBlank_eq_false_of_mem_toString hc
  have haddressNe : a.toChecksum.toList ≠ [] := by
    rw [← List.length_pos_iff, a.length_toChecksum]
    decide
  have hwords : Text.words (validatorLine width index a) =
      [['│'], (toString index).toList, ['│'], a.toChecksum.toList, ['│']] := by
    have hspace : Text.isBlank ' ' = true := by decide
    rw [validatorLine_eq, Text.words_append hbar (List.cons_ne_nil _ _) hspace,
      Text.words_replicate_append, Text.words_append hindex (toList_toString_ne_nil index) hspace,
      Text.words_append hbar (List.cons_ne_nil _ _) hspace,
      Text.words_append (fun _ hc ↦ a.isBlank_eq_false_of_mem_toChecksum hc) haddressNe hspace,
      Text.words_eq_singleton hbar (List.cons_ne_nil _ _)]
  rw [namedAddress, hwords]
  show Address.ofText (String.ofList a.toChecksum.toList) = .ok a
  rw [String.ofList_toList, Address.ofText_toChecksum]

/-! ## All lines -/

def titleLines (block : ℤ) (as : List Address) : List (List Char) :=
  Terminal.Table.titleLines (boxWidth (validatorsTable block as).naturalWidths)
    (validatorsTable block as).title

def textLines (block : ℤ) (as : List Address) : List (List Char) :=
  titleLines block as ++ (validatorsTable block as).boxLines ++ noticeLines as

/-- What is printed about validators, line by line. -/
theorem output_validators (block : ℤ) (hlength : as.length ≤ 10 ^ 31) :
    output false block (.validators as) =
      .ok (String.ofList ((textLines block as).flatMap fun line ↦ line ++ ['\n'])) := by
  have hrender := Terminal.Table.render_of_unmarked terminalWidth (unmarked_validatorsTable block as)
  rw [Terminal.Table.lines_of_fits (boxWidth_le block hlength), ← titleLines] at hrender
  have hnotice : (if as.isEmpty then emptyNotice ++ "\n" else "") =
      String.ofList ((noticeLines as).flatMap fun line ↦ line ++ ['\n']) := by
    unfold noticeLines
    split
    · decide
    · rfl
  show textOutput block (.validators as) = _
  rw [textOutput_validators hrender, hnotice, ← String.ofList_append, ← List.flatMap_append, textLines]

/-- A line of the title has blanks and characters of the title. -/
theorem eq_blank_or_isPlain (hline : line ∈ titleLines block as) (hc : c ∈ line) :
    c = ' ' ∨ c ∈ (validatorsTable block as).title.toList := by
  have hwidth : 2 ≤ boxWidth (validatorsTable block as).naturalWidths := by
    rw [naturalWidths_validatorsTable]
    simp only [boxWidth, List.foldr_cons, List.foldr_nil]
    omega
  exact Terminal.Table.mem_titleLines hwidth hline hc

theorem isPlain_of_mem_titleLines (hline : line ∈ titleLines block as) (hc : c ∈ line) :
    IsPlain c := by
  rcases eq_blank_or_isPlain hline hc with rfl | hc
  · decide
  · exact isPlain_title block as c hc

/-! ## Lines of the box -/

/-- No row runs over into another line. -/
theorem lineFeed_notMem_rowLine {bar : Char} {columns : List (Terminal.Column × ℕ)}
    {row : List String} (hbar : '\n' ≠ bar) (h : ∀ text ∈ row, ∀ c ∈ text.toList, IsPlain c) :
    '\n' ∉ rowLine bar columns row := by
  intro hmem
  rcases Terminal.Table.mem_rowLine hmem with heq | heq | heq | ⟨text, htext, hc⟩
  · exact hbar heq
  · exact absurd heq (by decide)
  · exact absurd heq (by decide)
  · exact absurd (h text htext '\n' hc) (by decide)

theorem lineFeed_notMem_ruleLine {r : Terminal.Table.Rule} {widths : List ℕ}
    (h : '\n' ∉ [r.left, r.crossing, r.line, r.right]) :
    '\n' ∉ Terminal.Table.ruleLine widths r := by
  intro hmem
  apply h
  simpa using Terminal.Table.mem_ruleLine hmem

theorem isPlain_of_mem_row {row : List String} (hrow : row ∈ (validatorsTable block as).rows) :
    ∀ text ∈ row, ∀ c ∈ text.toList, IsPlain c := by
  obtain ⟨index, a, _, rfl⟩ := exists_of_mem_rows hrow
  intro text htext
  rcases List.mem_cons.1 htext with htext | htext
  · rw [htext, Number.toList_toString]
    exact Terminal.isPlain_toDigits index
  · rw [List.mem_singleton.1 htext]
    exact a.isPlain_toChecksum

theorem isPlain_of_mem_headers : ∀ text ∈ ["#", "Address"], ∀ c ∈ text.toList, IsPlain c := by
  intro text htext
  rcases List.mem_cons.1 htext with rfl | htext
  · exact Terminal.isPlain_of_all (by decide)
  · rw [List.mem_singleton.1 htext]
    exact Terminal.isPlain_of_all (by decide)

/-- Every line of the box begins with a character of the box, and has no line feed. -/
theorem mem_boxLines (hline : line ∈ (validatorsTable block as).boxLines) :
    (∃ c rest, line = c :: rest ∧ c ∈ ['┏', '┃', '┡', '│', '└']) ∧ '\n' ∉ line := by
  unfold Terminal.Table.boxLines at hline
  rcases List.mem_append.1 hline with hline | hline
  · rcases List.mem_append.1 hline with hline | hline
    · rcases List.mem_cons.1 hline with rfl | hline
      · exact ⟨⟨'┏', _, rfl, by decide⟩, lineFeed_notMem_ruleLine (by decide)⟩
      rcases List.mem_cons.1 hline with rfl | hline
      · exact ⟨⟨'┃', _, rfl, by decide⟩,
          lineFeed_notMem_rowLine (by decide) isPlain_of_mem_headers⟩
      · rw [List.mem_singleton.1 hline]
        exact ⟨⟨'┡', _, rfl, by decide⟩, lineFeed_notMem_ruleLine (by decide)⟩
    · obtain ⟨row, hrow, rfl⟩ := List.mem_map.1 hline
      exact ⟨⟨'│', _, rfl, by decide⟩,
        lineFeed_notMem_rowLine (by decide) (isPlain_of_mem_row hrow)⟩
  · rw [List.mem_singleton.1 hline]
    exact ⟨⟨'└', _, rfl, by decide⟩, lineFeed_notMem_ruleLine (by decide)⟩

/-- No printed line has a line feed in it. -/
theorem lineFeed_notMem_textLines (block : ℤ) (as : List Address) :
    ∀ line ∈ textLines block as, '\n' ∉ line := by
  intro line hline hmem
  rcases List.mem_append.1 hline with hline | hline
  · rcases List.mem_append.1 hline with hline | hline
    · exact absurd (isPlain_of_mem_titleLines hline hmem) (by decide)
    · exact (mem_boxLines hline).2 hmem
  · unfold noticeLines at hline
    split at hline
    · rw [List.mem_singleton.1 hline] at hmem
      exact absurd hmem (by decide)
    · cases hline

/-- The lines between light bars are those of the validators. -/
theorem filter_textLines (block : ℤ) (as : List Address) :
    (textLines block as).filter (fun line ↦ line.head? = some '│') =
      as.mapIdx (validatorLine (indexWidth block as)) := by
  have htitle : (titleLines block as).filter (fun line ↦ line.head? = some '│') = [] := by
    rw [List.filter_eq_nil_iff]
    intro line hline hhead
    have hmem : '│' ∈ line := List.mem_of_head? (of_decide_eq_true hhead)
    exact absurd (isPlain_of_mem_titleLines hline hmem) (by decide)
  have hrows : (as.mapIdx (validatorLine (indexWidth block as))).filter
      (fun line ↦ line.head? = some '│') = as.mapIdx (validatorLine (indexWidth block as)) := by
    rw [List.filter_eq_self]
    intro line hline
    obtain ⟨index, hindex, rfl⟩ := List.mem_mapIdx.1 hline
    rw [validatorLine_eq]
    rfl
  have hnotice : (noticeLines as).filter (fun line ↦ line.head? = some '│') = [] := by
    unfold noticeLines
    split
    · decide
    · rfl
  have hbox : (validatorsTable block as).boxLines.filter (fun line ↦ line.head? = some '│') =
      as.mapIdx (validatorLine (indexWidth block as)) := by
    rw [Terminal.Table.boxLines, ← sizedColumns, map_rowLine_rows, List.filter_append,
      List.filter_append, hrows]
    exact List.append_nil _
  rw [textLines, List.filter_append, List.filter_append, htitle, hbox, hnotice, List.nil_append,
    List.append_nil]

/-- The notice stands neither in the title nor in the box. -/
theorem emptyNotice_notMem (block : ℤ) (as : List Address) :
    emptyNotice.toList ∉ titleLines block as ++ (validatorsTable block as).boxLines := by
  intro hmem
  rcases List.mem_append.1 hmem with hmem | hmem
  · have hletter : 'm' ∈ emptyNotice.toList := by decide
    rcases eq_blank_or_isPlain hmem hletter with heq | hletter
    · exact absurd heq (by decide)
    · rw [toList_title] at hletter
      rcases List.mem_append.1 hletter with hletter | hletter
      · exact absurd hletter (by decide)
      · exact absurd (Number.isDigit_or_eq_dash hletter) (by decide)
  · obtain ⟨⟨c, rest, hline, hc⟩, _⟩ := mem_boxLines hmem
    have hhead : emptyNotice.toList.head? = some 'V' := by decide
    rw [hline] at hhead
    obtain rfl := Option.some.inj hhead
    exact absurd hc (by decide)

/-! ## The table of a run -/

/-- The lines of the validators are lines of the box. -/
theorem mapIdx_validatorLine_subset (block : ℤ) (as : List Address) :
    as.mapIdx (validatorLine (indexWidth block as)) ⊆ (validatorsTable block as).boxLines := by
  rw [← map_rowLine_rows]
  exact fun line hline ↦ List.mem_append_left _ (List.mem_append_right _ hline)

/-- All lines of the box are equally wide. -/
theorem cells_of_mem_boxLines (hline : line ∈ (validatorsTable block as).boxLines) :
    cells line = boxWidth (validatorsTable block as).naturalWidths := by
  apply Terminal.Table.cells_of_mem_boxLines _ _ hline
  · rw [columns_validatorsTable]
    exact List.cons_ne_nil _ _
  · intro row hrow
    obtain ⟨index, a, _, rfl⟩ := exists_of_mem_rows hrow
    rfl

/-- A run that printed the text of validators shows them. -/
theorem showsValidators_of_stdout {r : Report} (hlength : as.length ≤ 10 ^ 31)
    (exitCode : r.exitCode = 0) (escaped : r.escaped = none) (stderr : r.stderr = "")
    (stdout : output false block (.validators as) = .ok r.stdout) : ShowsValidators r as := by
  rw [output_validators block hlength] at stdout
  have hlines : r.lines = textLines block as := by
    rw [Report.lines, ← Except.ok.inj stdout, String.toList_ofList,
      Text.splitOn_flatMap (lineFeed_notMem_textLines block as), List.dropLast_concat]
  have hrows : r.bodyRows = as.mapIdx (validatorLine (indexWidth block as)) := by
    rw [Report.bodyRows, hlines, filter_textLines]
  refine ⟨exitCode, escaped, stderr, ?rows, ?box, ?readBack⟩
  case rows =>
    refine ⟨indexWidth block as, ?_, hrows⟩
    intro index hindex
    exact length_toString_le_indexWidth (List.getElem?_eq_getElem hindex) block
  case box =>
    refine ⟨titleLines block as, (validatorsTable block as).boxLines, hlines,
      emptyNotice_notMem block as, ?_, ?_, boxWidth (validatorsTable block as).naturalWidths,
      boxWidth_le block hlength, fun line hline ↦ cells_of_mem_boxLines hline⟩
    · rw [Terminal.Table.boxLines, List.getLast?_concat]
      rfl
    · rw [hrows]
      exact mapIdx_validatorLine_subset block as
  case readBack =>
    rw [hrows, Attempt.mapM_eq_ok_iff, List.forall₂_iff_get]
    refine ⟨List.length_mapIdx, ?_⟩
    intro index _ _
    rw [List.get_eq_getElem, List.getElem_mapIdx]
    exact namedAddress_validatorLine _ index _

end ValidatorReader.CommandLine
