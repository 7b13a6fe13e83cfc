import ValidatorReader.Proofs.CommandLine.Answers
import ValidatorReader.Proofs.Terminal.Words

/-!
# The line of the counter

The counter has no more figures than the terminal has columns, so that it stays whole. It stands behind the
number of the block, which may be longer than a line and is then cut into parts.
-/

namespace ValidatorReader.CommandLine

open Node (plainTransaction one)
open Terminal (cells)

variable {env : Environment} {node : Node} {args : List String} {options : List (String × String)}
  {settings : Settings} {a : Address} {b n : ℕ} {c : Char}

/-- Whether a run ends well and shows the counter at a block: its words are those of the label, the number
of the block with a colon, in parts if it is too long for a line, and the counter. -/
structure ShowsCounter (r : Report) (b n : ℕ) : Prop where
  exitCode : r.exitCode = 0
  escaped : r.escaped = none
  stderr : r.stderr = ""
  parts : ∃ parts, parts.flatten = (toString b ++ ":").toList ∧ Text.words r.stdout.toList =
    ["Epoch", "counter", "at", "block"].map String.toList ++ parts ++ [(toString n).toList]
  whole : (toString b).length ≤ 79 → Text.words r.stdout.toList =
    ["Epoch", "counter", "at", "block", toString b ++ ":", toString n].map String.toList
  last : (Text.words r.stdout.toList).getLast? = some (toString n).toList

/-! ## The words of the line -/

def counterLine (b n : ℕ) : List Char :=
  counterLabel b ++ (toString n).toList

theorem toList_numberedBlock (b : ℕ) :
    (toString b ++ ":").toList = (toString b).toList ++ [':'] :=
  String.toList_append

/-- The line as its words with single blanks between them. -/
theorem counterLine_eq (b n : ℕ) :
    counterLine b n = "Epoch".toList ++ ' ' :: ("counter".toList ++ ' ' :: ("at".toList ++
      ' ' :: ("block".toList ++ ' ' :: ((toString b ++ ":").toList ++ ' ' :: (toString n).toList)))) := by
  have hlabel : "Epoch counter at block ".toList = "Epoch".toList ++ ' ' :: ("counter".toList ++
      ' ' :: ("at".toList ++ ' ' :: ("block".toList ++ [' ']))) := rfl
  have hnumber : toString (b : ℤ) = toString b := rfl
  unfold counterLine counterLabel
  rw [toList_numberedBlock, hlabel, hnumber]
  simp only [List.append_assoc, List.cons_append, List.nil_append]

/-- The words of the line, of which the counter is the last. -/
theorem words_counterLine (b n : ℕ) :
    Text.words (counterLine b n) =
      ["Epoch", "counter", "at", "block", toString b ++ ":", toString n].map String.toList := by
  have hspace : Text.isBlank ' ' = true := by decide
  have hlabel : ∀ word ∈ ["Epoch", "counter", "at", "block"],
      word.toList ≠ [] ∧ word.toList.all (!Text.isBlank ·) = true := by decide
  have hblock : ∀ c ∈ (toString b ++ ":").toList, Text.isBlank c = false := by
    intro c hc
    rw [toList_numberedBlock] at hc
    rcases List.mem_append.1 hc with hc | hc
    · exact isBlank_eq_false_of_mem_toString hc
    · rw [List.mem_singleton.1 hc]
      decide
  have hblockNe : (toString b ++ ":").toList ≠ [] := by
    rw [toList_numberedBlock]
    exact List.append_ne_nil_of_right_ne_nil _ (List.cons_ne_nil ':' [])
  have hfirst (word : String) (hword : word ∈ ["Epoch", "counter", "at", "block"])
      (rest : List Char) : Text.words (word.toList ++ ' ' :: rest) = word.toList :: Text.words rest := by
    obtain ⟨hne, hall⟩ := hlabel word hword
    apply Text.words_append _ hne hspace
    simpa using hall
  rw [counterLine_eq, hfirst "Epoch" (by simp), hfirst "counter" (by simp), hfirst "at" (by simp),
    hfirst "block" (by simp), Text.words_append hblock hblockNe hspace,
    Text.words_eq_singleton (fun _ hc ↦ isBlank_eq_false_of_mem_toString hc)
      (toList_toString_ne_nil n)]
  rfl

/-- No character of the line ends it or is a tab. -/
theorem ge_of_mem_counterLine (h : c ∈ counterLine b n) : 0x20 ≤ c.toNat := by
  rcases List.mem_append.1 h with h | h
  · rcases isPlain_or_eq_of_mem_counterLabel h with hplain | rfl
    · exact hplain.1
    · decide
  · exact (Terminal.isPlain_toString n c h).1

/-! ## Lengths -/

theorem cells_counter_le (hn : n < 2 ^ 256) : cells (toString n).toList ≤ terminalWidth := by
  have hlarge : 2 ^ 256 ≤ 10 ^ terminalWidth := by decide
  rw [Number.toList_toString, Terminal.cells_of_isPlain (Terminal.isPlain_toDigits n),
    Nat.length_toDigits_le_iff (by decide) (by decide)]
  exact hn.trans_le hlarge

theorem cells_block (b : ℕ) : cells (toString b ++ ":").toList = (toString b).length + 1 := by
  have hcolon : cells [':'] = 1 := by decide
  rw [toList_numberedBlock, Terminal.cells_append, cells_toString, hcolon]

/-! ## The line that is shown -/

/-- The words of the label and the counter stay whole, and the number of the block does if it is short. -/
theorem words_layOut_counterLine (b : ℕ) (hn : n < 2 ^ 256) :
    ∃ number, number.flatten = (toString b ++ ":").toList ∧
      ((toString b).length ≤ 79 → number = [(toString b ++ ":").toList]) ∧
      Text.words (Terminal.layOut terminalWidth (counterLine b n)).toList =
        ["Epoch", "counter", "at", "block"].map String.toList ++ number ++ [(toString n).toList] := by
  obtain ⟨cs, hcs⟩ : ∃ cs, counterLine b n = 'E' :: cs := ⟨_, counterLine_eq b n⟩
  have hnot (d : Char) (hd : d.toNat < 0x20) : d ∉ 'E' :: cs := by
    rw [← hcs]
    exact fun hmem ↦ absurd (ge_of_mem_counterLine hmem) (Nat.not_le.2 hd)
  have hwidth : 2 ≤ terminalWidth := by decide
  have hfirst : Text.isBlank 'E' = false := by decide
  obtain ⟨parts, hshown, hparts⟩ :=
    Terminal.words_layOut hwidth hfirst (hnot '\n' (by decide)) (hnot '\t' (by decide))
  rw [← hcs, words_counterLine] at hparts
  simp only [List.map_cons, List.map_nil, List.forall₂_cons_left_iff,
    List.forall₂_nil_left_iff] at hparts
  obtain ⟨epoch, _, hepoch, ⟨counter, _, hcounter, ⟨at_, _, hat, ⟨block, _, hblock,
    ⟨number, _, hnumber, ⟨last, _, hlast, rfl, rfl⟩, rfl⟩, rfl⟩, rfl⟩, rfl⟩, rfl⟩ := hparts
  refine ⟨number, hnumber.1, ?_, ?_⟩
  · intro hshort
    apply hnumber.2
    rw [cells_block]
    exact Nat.succ_le_succ hshort
  · rw [hcs, hshown, hepoch.2 (by decide), hcounter.2 (by decide), hat.2 (by decide),
      hblock.2 (by decide), hlast.2 (cells_counter_le hn)]
    rfl

theorem output_counter (b n : ℕ) : output false b (.epochCounter (.int n)) =
    .ok (Terminal.layOut terminalWidth (counterLine b n)) :=
  shownLine_counter b (Terminal.isPlain_toString n)

/-- A run that printed the text of a counter shows it. -/
theorem showsCounter_of_stdout {r : Report} (hn : n < 2 ^ 256) (exitCode : r.exitCode = 0)
    (escaped : r.escaped = none) (stderr : r.stderr = "")
    (stdout : output false b (.epochCounter (.int n)) = .ok r.stdout) : ShowsCounter r b n := by
  obtain ⟨number, hnumber, hwhole, hwords⟩ := words_layOut_counterLine b hn
  rw [output_counter] at stdout
  rw [Except.ok.inj stdout] at hwords
  refine ⟨exitCode, escaped, stderr, ⟨number, hnumber, hwords⟩, ?whole, ?last⟩
  case whole =>
    intro hshort
    rw [hwords, hwhole hshort]
    rfl
  case last => rw [hwords, List.getLast?_concat]

/-- With usable settings, a contract that is an address and a block number that is not too long, the
counter that the node returns is shown whole as the last word of the text, however long the number of the
block is. -/
theorem run_shows_counter (given : Gives args options) (valid : Settings.read env = .ok settings)
    (contract : NamesContract options env a) (block : NamesBlock options node b)
    (hb : b < 10 ^ Number.maxDigits) (hn : n < 2 ^ 256) {trailing : List UInt8}
    (returned : node.call (plainTransaction getEpochCounter a) (.int b) =
      .ok (Bytes.ofNat 32 n ++ trailing)) :
    ShowsCounter (run (args ++ ["epoch-counter"]) env node) b n := by
  obtain ⟨hbound, hdecode⟩ := Abi.decode_word hn
  have hread : readAt node a .epochCounter b = _ :=
    Node.read_of_output rfl rfl rfl returned (Abi.decode_append_of_cons hdecode trailing) rfl
  have parsed : parse commandOptions true [] = .ok {} := rfl
  obtain ⟨events, hrun⟩ := run_of_reading (c := .epochCounter) given valid contract block hb parsed
    rfl rfl (congrArg Traced.result hread) (output_counter b n)
  have hname : args ++ [Command.epochCounter.name] = args ++ ["epoch-counter"] := rfl
  rw [← hname, hrun]
  exact showsCounter_of_stdout hn rfl rfl rfl (output_counter b n)

/-- A node whose newest block has a number, and that returns the largest counter with a byte behind it. -/
def countingNode (b : ℕ) : Node where
  call _ _ := .ok (Bytes.ofNat 32 (2 ^ 256 - 1) ++ [0xff])
  blockNumber := .ok (.int b)

/-- The largest counter at a block with a short number, and at one whose number fills more than a line. -/
theorem run_shows_counter_largest :
    ShowsCounter (run ["epoch-counter"] { address := some "0x1" } (countingNode 12)) 12
      (2 ^ 256 - 1) ∧
    ShowsCounter (run ["epoch-counter"] { address := some "0x1" } (countingNode (10 ^ 100)))
      (10 ^ 100) (2 ^ 256 - 1) := by
  have accepted : Address.ofText "0x1" = .ok one := by cbv
  have absent (name : String) : NotGiven [] name := List.forall_mem_nil _
  have contract : NamesContract [] { address := some "0x1" } one :=
    .environment (absent _) rfl accepted
  obtain ⟨settings, valid, _⟩ := Settings.exists_read_address accepted
  have hshows {b k : ℕ} (hk : k < Number.maxDigits) (hb : b ≤ 10 ^ k) :
      ShowsCounter (run ["epoch-counter"] { address := some "0x1" } (countingNode b)) b
        (2 ^ 256 - 1) :=
    run_shows_counter .nil valid contract (.newest (.inr (absent _)) rfl rfl)
      (hb.trans_lt (Nat.pow_lt_pow_right (by decide) hk)) (by decide) rfl
  exact ⟨hshows (by decide) (by decide : 12 ≤ 10 ^ 2), hshows (by decide) le_rfl⟩

end ValidatorReader.CommandLine
