import ValidatorReader.Proofs.Address.Cased
import ValidatorReader.Proofs.CommandLine.Readings
import ValidatorReader.Proofs.Number.Decimal
import ValidatorReader.Proofs.Terminal.Table

/-!
# Readings as text

The texts that a reading is shown with have no marks of their own: addresses and numbers are made of
letters and figures. So the table of the validators and the line of the counter say what they are made
of, and neither can fail.
-/

namespace ValidatorReader

variable {c : Char} {cs : List Char} {a : Address}

/-! ## Characters without meaning -/

theorem Text.isBlank_eq_false_of_isDigit (h : c.isDigit = true) : isBlank c = false := by
  have hrange := Number.isDigit_iff.1 h
  rw [Bool.eq_false_iff]
  intro hblank
  simp only [isBlank, Bool.or_eq_true, Bool.and_eq_true, decide_eq_true_eq, beq_iff_eq] at hblank
  omega

namespace Terminal

/-- Whether a character is printable ASCII without a meaning in markup. -/
def IsPlain (c : Char) : Prop :=
  0x20 ≤ c.toNat ∧ c.toNat < 0x7f ∧ c.toNat ≠ 0x3a ∧ c.toNat ≠ 0x5b ∧ c.toNat ≠ 0x5c

instance (c : Char) : Decidable (IsPlain c) :=
  inferInstanceAs (Decidable (_ ∧ _))

theorem isPlain_of_all (h : cs.all (fun c ↦ decide (IsPlain c)) = true) : ∀ c ∈ cs, IsPlain c :=
  fun c hc ↦ of_decide_eq_true (List.all_eq_true.1 h c hc)

theorem IsPlain.isMark_eq_false (h : IsPlain c) : isMark c = false := by
  obtain ⟨hlow, _, hcolon, hopen, hslash⟩ := h
  rw [Bool.eq_false_iff]
  intro hmark
  simp only [isMark, Bool.or_eq_true, beq_iff_eq] at hmark
  rcases hmark with (((rfl | rfl) | rfl) | h) | h
  · exact hopen rfl
  · exact hslash rfl
  · exact hcolon rfl
  · omega
  · omega

theorem IsPlain.isControl_eq_false (h : IsPlain c) : isControl c = false := by
  obtain ⟨hlow, _⟩ := h
  simp only [isControl, List.contains_cons, List.contains_nil, Bool.or_false, Bool.or_eq_false_iff,
    beq_eq_false_iff_ne]
  omega

theorem unmarked_of_isPlain (h : ∀ c ∈ cs, IsPlain c) : Unmarked cs :=
  fun c hc ↦ ⟨(h c hc).isMark_eq_false, (h c hc).isControl_eq_false⟩

theorem cells_of_isPlain (h : ∀ c ∈ cs, IsPlain c) : cells cs = cs.length :=
  cells_eq_length fun c hc ↦ ⟨(h c hc).1, (h c hc).2.1⟩

/-- A plain character is no backslash and no opening bracket. -/
theorem IsPlain.ne (h : IsPlain c) : c ≠ '\\' ∧ c ≠ '[' := by
  obtain ⟨_, _, _, hopen, hslash⟩ := h
  constructor
  · rintro rfl
    exact hslash rfl
  · rintro rfl
    exact hopen rfl

theorem isPlain_of_isDigit (h : c.isDigit = true) : IsPlain c := by
  have hrange := Number.isDigit_iff.1 h
  unfold IsPlain
  omega

theorem isPlain_of_isSome_hexValue? (h : (Bytes.hexValue? c).isSome = true) : IsPlain c := by
  have hrange := Bytes.toNat_of_isSome_hexValue? h
  unfold IsPlain
  omega

theorem isPlain_toDigits (n : ℕ) : ∀ c ∈ Nat.toDigits 10 n, IsPlain c :=
  fun _ hc ↦ isPlain_of_isDigit (Number.isDigit_of_mem_toDigits hc)

theorem isPlain_toString (n : ℤ) : ∀ c ∈ (toString n).toList, IsPlain c := by
  intro c hc
  rcases Number.isDigit_or_eq_dash hc with hdigit | rfl
  · exact isPlain_of_isDigit hdigit
  · decide

end Terminal

namespace Address

theorem toList_toChecksum (a : Address) :
    a.toChecksum.toList = '0' :: 'x' :: a.casedChars (Keccak.digest a.digitBytes) :=
  String.toList_ofList

theorem length_toChecksum (a : Address) : a.toChecksum.toList.length = 42 := by
  rw [toList_toChecksum, List.length_cons, List.length_cons,
    length_casedChars (Keccak.length_digest _)]

/-- The checksummed form has no characters but the mark and digits. -/
theorem eq_or_isSome_of_mem_toChecksum (h : c ∈ a.toChecksum.toList) :
    c = 'x' ∨ (Bytes.hexValue? c).isSome = true := by
  rw [toList_toChecksum] at h
  rcases List.mem_cons.1 h with rfl | h
  · exact .inr rfl
  · rcases List.mem_cons.1 h with rfl | h
    · exact .inl rfl
    · exact .inr (isSome_hexValue?_of_mem_casedChars (Keccak.length_digest _) h)

theorem isBlank_eq_false_of_mem_toChecksum (h : c ∈ a.toChecksum.toList) :
    Text.isBlank c = false := by
  rcases eq_or_isSome_of_mem_toChecksum h with rfl | hsome
  · decide
  · exact Bytes.isBlank_eq_false_of_isSome_hexValue? hsome

theorem isPlain_toChecksum (a : Address) : ∀ c ∈ a.toChecksum.toList, Terminal.IsPlain c := by
  intro c hc
  rcases eq_or_isSome_of_mem_toChecksum hc with rfl | hsome
  · decide
  · exact Terminal.isPlain_of_isSome_hexValue? hsome

end Address

namespace CommandLine

open Terminal (IsPlain Piece Unmarked layOut plainPiece plainText scan showPieces shownText
  unmarked_of_isPlain)

/-! ## Decimal numbers -/

theorem cells_toString (n : ℕ) : Terminal.cells (toString n).toList = (toString n).length := by
  rw [← String.length_toList]
  exact Terminal.cells_of_isPlain (Terminal.isPlain_toString n)

theorem toList_toString_ne_nil (n : ℕ) : (toString n).toList ≠ [] := by
  rw [Number.toList_toString]
  exact Nat.toDigits_ne_nil

theorem isBlank_eq_false_of_mem_toString {n : ℕ} (h : c ∈ (toString n).toList) :
    Text.isBlank c = false := by
  rw [Number.toList_toString] at h
  exact Text.isBlank_eq_false_of_isDigit (Number.isDigit_of_mem_toDigits h)

/-! ## The table of the validators -/

theorem toList_title (block : ℤ) (as : List Address) :
    (validatorsTable block as).title.toList =
      "Validators at block ".toList ++ (toString block).toList :=
  String.toList_append

/-- The title above the validators is plain, whatever the block and however many there are. -/
theorem isPlain_title (block : ℤ) (as : List Address) :
    ∀ c ∈ (validatorsTable block as).title.toList, IsPlain c := by
  have hlabel : ∀ c ∈ "Validators at block ".toList, IsPlain c :=
    Terminal.isPlain_of_all (by decide)
  intro c hc
  rw [toList_title] at hc
  rcases List.mem_append.1 hc with hc | hc
  · exact hlabel c hc
  · exact Terminal.isPlain_toString block c hc

theorem columns_validatorsTable (block : ℤ) (as : List Address) :
    (validatorsTable block as).columns = [⟨"#", .right⟩, ⟨"Address", .left⟩] := rfl

/-- Each row of the table has the index of an address and its checksummed form. -/
theorem exists_of_mem_rows {block : ℤ} {as : List Address} {row : List String}
    (h : row ∈ (validatorsTable block as).rows) :
    ∃ (index : ℕ) (a : Address), as[index]? = some a ∧ row = [toString index, a.toChecksum] := by
  obtain ⟨index, hindex, rfl⟩ := List.mem_mapIdx.1 h
  exact ⟨index, as[index], List.getElem?_eq_getElem hindex, rfl⟩

/-- Nothing in the table of validators means anything in markup. -/
theorem unmarked_validatorsTable (block : ℤ) (as : List Address) :
    (validatorsTable block as).Unmarked := by
  refine ⟨unmarked_of_isPlain (isPlain_title block as), ?_, ?_⟩
  · intro column hcolumn
    rw [columns_validatorsTable] at hcolumn
    rcases List.mem_cons.1 hcolumn with rfl | hcolumn
    · exact unmarked_of_isPlain (Terminal.isPlain_of_all (by decide))
    · rw [List.mem_singleton.1 hcolumn]
      exact unmarked_of_isPlain (Terminal.isPlain_of_all (by decide))
  · intro row hrow text htext
    obtain ⟨index, a, _, rfl⟩ := exists_of_mem_rows hrow
    rcases List.mem_cons.1 htext with htext | htext
    · rw [htext, Number.toList_toString]
      exact unmarked_of_isPlain (Terminal.isPlain_toDigits index)
    · rw [List.mem_singleton.1 htext]
      exact unmarked_of_isPlain a.isPlain_toChecksum

def emptyNotice : String := "Validator set is empty"

theorem shownLine_emptyNotice :
    shownLine "[yellow]Validator set is empty[/]" = .ok (emptyNotice ++ "\n") := by
  decide +kernel

/-! ## The line of the counter -/

/-- The pieces of a text in bold type behind another text. -/
theorem pieces_bold {before text : List Char} (hbefore : ∀ c ∈ before, c ≠ '\\' ∧ c ≠ '[')
    (htext : ∀ c ∈ text, c ≠ '\\' ∧ c ≠ '[') :
    Terminal.pieces (before ++ "[bold]".toList ++ text ++ "[/]".toList) =
      plainPiece before ++ [.tag before.length "bold".toList none] ++ (plainPiece text ++
        [.tag (before.length + 6 + text.length) ['/'] none]) := by
  have hopening (position : ℕ) (pending rest : List Char) :
      scan 0 position 0 pending ("[bold]".toList ++ rest) =
        plainPiece pending ++ [.tag position "bold".toList none] ++
          scan 0 (position + 6) 0 [] rest := rfl
  have hclosing (position : ℕ) (pending : List Char) :
      scan 0 position 0 pending "[/]".toList =
        plainPiece pending ++ [.tag position ['/'] none] := by
    have hpieces : scan 0 position 0 pending "[/]".toList =
        plainPiece pending ++ [.tag position ['/'] none] ++ [] := rfl
    rw [hpieces, List.append_nil]
  rw [Terminal.pieces, List.append_assoc, List.append_assoc, Terminal.scan_append hbefore,
    hopening, Terminal.scan_append htext, hclosing, Nat.zero_add, List.nil_append, List.nil_append]

def counterLabel (block : ℤ) : List Char :=
  "Epoch counter at block ".toList ++ (toString block).toList ++ [':', ' ']

theorem shownText_counterLabel (block : ℤ) :
    shownText (counterLabel block) = counterLabel block := by
  have hlabel : Unmarked "Epoch counter at block ".toList :=
    unmarked_of_isPlain (Terminal.isPlain_of_all (by decide))
  have hnumber : Unmarked (toString block).toList :=
    unmarked_of_isPlain (Terminal.isPlain_toString block)
  exact Terminal.shownText_label (hlabel.append hnumber)

/-- Only the colon keeps the label of the counter from being plain. -/
theorem isPlain_or_eq_of_mem_counterLabel {block : ℤ} (h : c ∈ counterLabel block) :
    IsPlain c ∨ c = ':' := by
  have hlabel : ∀ d ∈ "Epoch counter at block ".toList, IsPlain d :=
    Terminal.isPlain_of_all (by decide)
  rcases List.mem_append.1 h with h | h
  · rcases List.mem_append.1 h with h | h
    · exact .inl (hlabel c h)
    · exact .inl (Terminal.isPlain_toString block c h)
  · rcases List.mem_cons.1 h with rfl | h
    · exact .inr rfl
    · rw [List.mem_singleton.1 h]
      exact .inl (by decide)

theorem ne_of_mem_counterLabel {block : ℤ} (h : c ∈ counterLabel block) :
    c ≠ '\\' ∧ c ≠ '[' := by
  rcases isPlain_or_eq_of_mem_counterLabel h with hplain | rfl
  · exact hplain.ne
  · decide

/-- A style that is opened and closed again shows nothing but the text between. -/
theorem showPieces_bold {before text : List Char} (hbefore : shownText before = before)
    (htext : shownText text = text) (position position' : ℕ) :
    showPieces [] (plainPiece before ++ [.tag position "bold".toList none] ++
      (plainPiece text ++ [.tag position' ['/'] none])) = .ok (before ++ text) := by
  have hopening (ps : List Piece) : showPieces [] ([.tag position "bold".toList none] ++ ps) =
      showPieces [Terminal.normalStyle "bold"] ps := rfl
  have hclosing (style : String) : showPieces [style] [.tag position' ['/'] none] = .ok [] := rfl
  rw [List.append_assoc, Terminal.showPieces_plainPiece_append, hopening,
    Terminal.showPieces_plainPiece_append, hclosing, hbefore, htext]
  simp [Except.map]

/-- The line of a counter whose text is plain has the block and the text. -/
theorem shownLine_counter (block : ℤ) {text : String} (h : ∀ c ∈ text.toList, IsPlain c) :
    shownLine s!"Epoch counter at block {block}: [bold]{text}[/]" =
      .ok (layOut terminalWidth (counterLabel block ++ text.toList)) := by
  have hbold : ": [bold]".toList = [':', ' '] ++ "[bold]".toList := by decide
  have htoList : (s!"Epoch counter at block {block}: [bold]{text}[/]").toList =
      counterLabel block ++ "[bold]".toList ++ text.toList ++ "[/]".toList := by
    unfold counterLabel
    simp only [toString, String.toList_append, hbold, List.append_assoc]
  have hopen : (counterLabel block ++ "[bold]".toList ++ text.toList ++ "[/]".toList).contains '[' =
      true := by
    rw [List.contains_iff_mem]
    exact List.mem_append_right _ (by decide)
  have hpieces : Terminal.pieces
      (counterLabel block ++ "[bold]".toList ++ text.toList ++ "[/]".toList) = _ :=
    pieces_bold (fun _ hc ↦ ne_of_mem_counterLabel hc) (fun c hc ↦ (h c hc).ne)
  have htext : shownText text.toList = text.toList :=
    Terminal.shownText_of_unmarked (unmarked_of_isPlain h)
  rw [shownLine, plainText]
  simp only [htoList, hopen, if_true, hpieces, showPieces_bold (shownText_counterLabel block) htext]
  rfl

/-! ## All readings -/

theorem isPlain_display_int (n : ℤ) : ∀ c ∈ (Value.int n).display.toList, IsPlain c :=
  Terminal.isPlain_toString n

theorem isPlain_display_bool (b : Bool) : ∀ c ∈ (Value.bool b).display.toList, IsPlain c := by
  cases b
  · exact Terminal.isPlain_of_all (by decide)
  · exact Terminal.isPlain_of_all (by decide)

/-- The text of a reading of validators is their table, with a notice below if there are none. -/
theorem textOutput_validators {block : ℤ} {as : List Address} {table : String}
    (h : (validatorsTable block as).render terminalWidth = .ok table) :
    textOutput block (.validators as) =
      .ok (table ++ if as.isEmpty then emptyNotice ++ "\n" else "") := by
  rw [textOutput, h]
  cases as with
  | nil =>
    simp only [List.isEmpty_nil, if_true, shownLine_emptyNotice]
    rfl
  | cons a as => rfl

/-- The content of a decoded value can be shown as text. -/
theorem exists_textOutput (block : ℤ) (value : Abi.TypedValue) :
    ∃ text, textOutput block (Reading.content value) = .ok text := by
  cases value with
  | addresses as =>
    have hrender := Terminal.Table.render_of_unmarked terminalWidth (unmarked_validatorsTable block as)
    exact ⟨_, textOutput_validators hrender⟩
  | uint256 n hn => exact ⟨_, shownLine_counter block (isPlain_display_int n)⟩
  | truth b => exact ⟨_, shownLine_counter block (isPlain_display_bool b)⟩

/-- What a command has read can be shown in either form. -/
theorem exists_output_of_reading {node : Node} {s : Session} {c : Command} {n : ℤ}
    {reading : Reading} (asJson : Bool)
    (h : (readContract node s c).result = .ok (n, reading)) :
    ∃ text, output asJson n reading = .ok text := by
  obtain ⟨value, rfl⟩ := exists_content_of_readContract h
  cases asJson with
  | true => exact ⟨_, rfl⟩
  | false => exact exists_textOutput n value

end CommandLine

end ValidatorReader
