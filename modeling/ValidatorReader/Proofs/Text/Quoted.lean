import ValidatorReader.Proofs.Number.Decimal
import ValidatorReader.Value.Basic

/-!
# Quoted texts and values

Quoted forms are printable, whatever they are the forms of. A text that is printable itself, without a
backslash and without one of the two quotes, stands in its quoted form as it is.
-/

namespace ValidatorReader

variable {s t : String} {parts : List String} {p : Char → Prop} {quote c d : Char}

/-! ## The characters of texts put together -/

namespace Text

theorem forall_mem_append (hs : ∀ c ∈ s.toList, p c) (ht : ∀ c ∈ t.toList, p c) :
    ∀ c ∈ (s ++ t).toList, p c := by
  intro c hc
  rw [String.toList_append, List.mem_append] at hc
  exact hc.elim (hs c) (ht c)

theorem forall_mem_commaSeparated (hcomma : ∀ c ∈ ", ".toList, p c)
    (h : ∀ s ∈ parts, ∀ c ∈ s.toList, p c) :
    ∀ c ∈ (Value.commaSeparated parts).toList, p c := by
  induction parts with
  | nil => exact nofun
  | cons s parts ih =>
    cases parts with
    | nil =>
      rw [Value.commaSeparated, String.intercalate_singleton]
      exact h s List.mem_cons_self
    | cons t parts =>
      rw [Value.commaSeparated, String.intercalate_cons_cons]
      have hrest := ih fun u hu ↦ h u (List.mem_cons_of_mem s hu)
      exact forall_mem_append (forall_mem_append (h s List.mem_cons_self) hcomma) hrest

/-! ## Quoted texts -/

/-- Whether all characters of a text are printable. -/
def IsPrintable (s : String) : Prop :=
  ∀ c ∈ s.toList, isPrintable c = true

theorem isPrintable_of_all (h : s.toList.all isPrintable = true) : IsPrintable s :=
  List.all_eq_true.1 h

theorem IsPrintable.append (hs : IsPrintable s) (ht : IsPrintable t) : IsPrintable (s ++ t) :=
  forall_mem_append hs ht

theorem isPrintable_commaSeparated (h : ∀ s ∈ parts, IsPrintable s) :
    IsPrintable (Value.commaSeparated parts) :=
  forall_mem_commaSeparated (isPrintable_of_all (by decide)) h

theorem isPrintable_ascii (h : 0x20 ≤ c.toNat) (h' : c.toNat < 0x7f) : isPrintable c = true := by
  rw [isPrintable]
  simp only [if_pos h', decide_eq_true_eq]
  exact h

theorem isPrintable_hexField (width n : ℕ) : ∀ c ∈ hexField width n, isPrintable c = true := by
  have hdigit : ∀ m < 16, isPrintable (Bytes.hexDigit m) = true := by decide
  induction width generalizing n with
  | zero => exact nofun
  | succ width ih =>
    intro c hc
    rcases List.mem_append.1 hc with hc | hc
    · exact ih (n / 16) c hc
    · rw [List.mem_singleton.1 hc]
      exact hdigit (n % 16) (Nat.mod_lt n (by decide))

/-- An escape is a backslash, a letter and digits. -/
theorem isPrintable_escape {letter : Char} (hletter : isPrintable letter = true) (width n : ℕ) :
    ∀ c ∈ '\\' :: letter :: hexField width n, isPrintable c = true := by
  intro c hc
  rcases List.mem_cons.1 hc with rfl | hc
  · decide
  · rcases List.mem_cons.1 hc with rfl | hc
    · exact hletter
    · exact isPrintable_hexField width n c hc

theorem isPrintable_escapeChar (hquote : isPrintable quote = true) (c : Char) :
    ∀ d ∈ escapeChar quote c, isPrintable d = true := by
  have hpair {d e : Char} (hd : isPrintable d = true) (he : isPrintable e = true) :
      ∀ f ∈ [d, e], isPrintable f = true := by
    simp [hd, he]
  have hslash : isPrintable '\\' = true := by decide
  unfold escapeChar
  split
  case isTrue hmark =>
    rcases hmark with rfl | rfl
    · exact hpair hslash hslash
    · exact hpair hslash hquote
  case isFalse =>
  iterate 3
    split
    · exact hpair hslash (by decide)
  split
  case isTrue hc => simp [hc]
  case isFalse =>
  iterate 2
    split
    · exact isPrintable_escape (by decide) _ _
  exact isPrintable_escape (by decide) _ _

theorem isPrintable_quoteFor (hasSingle hasDouble : Bool) :
    isPrintable (quoteFor hasSingle hasDouble) = true := by
  cases hasSingle <;> cases hasDouble <;> decide

theorem isPrintable_quoted (s : String) : IsPrintable (quoted s) := by
  intro c hc
  have hquote := isPrintable_quoteFor (s.toList.contains singleQuote) (s.toList.contains doubleQuote)
  rw [quoted, String.toList_ofList] at hc
  simp only [List.mem_append, List.mem_singleton, List.mem_flatMap] at hc
  rcases hc with (rfl | ⟨d, _, hc⟩) | rfl
  · exact hquote
  · exact isPrintable_escapeChar hquote d c hc
  · exact hquote

/-- Whether quoting leaves a text as it is. -/
structure StandsQuoted (s : String) : Prop where
  printable : IsPrintable s
  noBackslash : '\\' ∉ s.toList
  oneQuote : singleQuote ∉ s.toList ∨ doubleQuote ∉ s.toList

theorem escapeChar_of_isPrintable (hc : isPrintable c = true) (hslash : c ≠ '\\')
    (hquote : c ≠ quote) : escapeChar quote c = [c] := by
  have hline : c ≠ '\n' ∧ c ≠ '\r' ∧ c ≠ '\t' := by
    refine ⟨?_, ?_, ?_⟩ <;>
    · intro h
      rw [h] at hc
      revert hc
      decide
  rw [escapeChar, if_neg (not_or.2 ⟨hslash, hquote⟩), if_neg hline.1, if_neg hline.2.1,
    if_neg hline.2.2, if_pos hc]

/-- The quote that is chosen for a text is one that it does not have. -/
theorem StandsQuoted.quoteFor_notMem (h : StandsQuoted s) :
    quoteFor (s.toList.contains singleQuote) (s.toList.contains doubleQuote) ∉ s.toList := by
  rw [quoteFor]
  split
  case isTrue hboth =>
    rw [Bool.and_eq_true] at hboth
    simpa using hboth.2
  case isFalse hboth =>
    intro hsingle
    apply hboth
    have hdouble := h.oneQuote.resolve_left (not_not.2 hsingle)
    simp [hsingle, hdouble]

theorem StandsQuoted.infix_quoted (h : StandsQuoted s) : s.toList <:+: (quoted s).toList := by
  have hbody {quote : Char} (hquote : quote ∉ s.toList) :
      s.toList.flatMap (escapeChar quote) = s.toList :=
    calc
      s.toList.flatMap (escapeChar quote) = s.toList.flatMap fun c ↦ [c] := by
        apply List.flatMap_congr
        intro c hc
        apply escapeChar_of_isPrintable (h.printable c hc)
        · exact fun heq ↦ h.noBackslash (heq ▸ hc)
        · exact fun heq ↦ hquote (heq ▸ hc)
      _ = s.toList := List.flatMap_singleton' _
  rw [quoted, String.toList_ofList, hbody h.quoteFor_notMem]
  exact ⟨_, _, rfl⟩

/-! ## Quoted bytes -/

theorem isPrintable_escapeByte (hquote : isPrintable quote = true) (b : UInt8) :
    ∀ c ∈ escapeByte quote b, isPrintable c = true := by
  unfold escapeByte
  dsimp only
  split
  · split
    · exact isPrintable_escape (by decide) _ _
    · exact isPrintable_escapeChar hquote _
  · exact isPrintable_escape (by decide) _ _

theorem isPrintable_enclosedBytes {escaped : Char} (hescaped : isPrintable escaped = true)
    (hquote : isPrintable quote = true) (bytes : List UInt8) :
    IsPrintable (enclosedBytes escaped quote bytes) := by
  intro c hc
  rw [enclosedBytes, String.toList_ofList] at hc
  simp only [List.mem_append, List.mem_cons, List.not_mem_nil, or_false, List.mem_flatMap] at hc
  rcases hc with ((rfl | rfl) | ⟨b, _, hc⟩) | rfl
  · decide
  · exact hquote
  · exact isPrintable_escapeByte hescaped b c hc
  · exact hquote

end Text

/-! ## Quoted values -/

open Text (IsPrintable isPrintable_of_all)

theorem Address.isPrintable_quoted (a : Address) : IsPrintable a.quoted :=
  ((isPrintable_of_all (by decide)).append (Text.isPrintable_quoted _)).append
    (isPrintable_of_all (by decide))

theorem AbiType.isPrintable_quoted (t : AbiType) : IsPrintable t.quoted := by
  cases t
  · exact isPrintable_of_all (by decide)
  · exact isPrintable_of_all (by decide)

namespace Value

theorem isPrintable_toString (n : ℤ) : IsPrintable (toString n) := by
  intro c hc
  rcases Number.isDigit_or_eq_dash hc with hdigit | rfl
  · have hrange := Number.isDigit_iff.1 hdigit
    exact Text.isPrintable_ascii (by omega) (by omega)
  · decide

theorem isPrintable_enclosed {opening closing : String} (hopening : IsPrintable opening)
    (hclosing : IsPrintable closing) (h : ∀ s ∈ parts, IsPrintable s) :
    IsPrintable (opening ++ commaSeparated parts ++ closing) :=
  (hopening.append (Text.isPrintable_commaSeparated h)).append hclosing

mutual

/-- The quoted form of every value is printable. -/
theorem isPrintable_quoted : ∀ v : Value, IsPrintable v.quoted
  | .null => isPrintable_of_all (by decide)
  | .bool false => isPrintable_of_all (by decide)
  | .bool true => isPrintable_of_all (by decide)
  | .int n => isPrintable_toString n
  | .text s => Text.isPrintable_quoted s
  | .bytes b => Text.isPrintable_enclosedBytes (Text.isPrintable_quoteFor _ _)
      (Text.isPrintable_quoteFor _ _) b
  | .byteArray b =>
    ((isPrintable_of_all (by decide)).append (Text.isPrintable_enclosedBytes (by decide)
      (Text.isPrintable_quoteFor _ _) b)).append (isPrintable_of_all (by decide))
  | .address a => a.isPrintable_quoted
  | .abiType t => t.isPrintable_quoted
  | .list items => by
    rw [quoted]
    exact isPrintable_enclosed (isPrintable_of_all (by decide)) (isPrintable_of_all (by decide))
      (isPrintable_quotedItems items)
  | .tuple [] => isPrintable_of_all (by decide)
  | .tuple [item] => by
    rw [quoted]
    exact ((isPrintable_of_all (by decide)).append (isPrintable_quoted item)).append
      (isPrintable_of_all (by decide))
  | .tuple (item :: item' :: items) => by
    rw [quoted]
    · exact isPrintable_enclosed (isPrintable_of_all (by decide)) (isPrintable_of_all (by decide))
        (isPrintable_quotedItems (item :: item' :: items))
    · exact nofun
  | .dict entries => by
    rw [quoted]
    exact isPrintable_enclosed (isPrintable_of_all (by decide)) (isPrintable_of_all (by decide))
      (isPrintable_quotedEntries entries)

theorem isPrintable_quotedItems : ∀ items : List Value, ∀ s ∈ quotedItems items, IsPrintable s
  | [] => nofun
  | item :: items => by
    intro s hs
    rcases List.mem_cons.1 hs with rfl | hs
    · exact isPrintable_quoted item
    · exact isPrintable_quotedItems items s hs

theorem isPrintable_quotedEntries :
    ∀ entries : List (String × Value), ∀ s ∈ quotedEntries entries, IsPrintable s
  | [] => nofun
  | (name, v) :: entries => by
    intro s hs
    rcases List.mem_cons.1 hs with rfl | hs
    · exact ((Text.isPrintable_quoted name).append (isPrintable_of_all (by decide))).append
        (isPrintable_quoted v)
    · exact isPrintable_quotedEntries entries s hs

end

end Value

end ValidatorReader
