import Mathlib
import ValidatorReader.Proofs.Json.Reader
import ValidatorReader.Value.Json

/-!
# Strings that are read back

A text written as a JSON string is read back, whatever its characters are: each character is written
so that its code units of UTF-16 are read, and code units of characters stand for these again.
-/

namespace ValidatorReader.Json

open Value (jsonChar jsonString unitEscape)

variable {c : Char} {cs rest : List Char} {n : ℕ}

/-! ## Single steps -/

theorem readUnits?_quote (rest : List Char) : readUnits? ('"' :: rest) = some ([], rest) := by
  rw [readUnits?.eq_def]
  exact if_pos rfl

theorem readUnits?_plain (hquote : c ≠ '"') (hslash : c ≠ '\\') (hshown : 0x20 ≤ c.toNat)
    (rest : List Char) :
    readUnits? (c :: rest) = withUnits (codeUnits c) (readUnits? rest) := by
  rw [readUnits?.eq_def]
  simp [hquote, hslash, hshown]

theorem readUnits?_shortEscape {e : Char} (he : e ≠ 'u') (h : shortEscape? e = some n)
    (rest : List Char) :
    readUnits? ('\\' :: e :: rest) = withUnits [n] (readUnits? rest) := by
  rw [readUnits?.eq_def]
  simp [he, h]

theorem hexNumber?_hexField (hn : n < 0x10000) : hexNumber? (Text.hexField 4 n) = some n := by
  have hdigit (m : ℕ) : Bytes.hexValue? (Bytes.hexDigit (m % 16)) = some (m % 16) :=
    Bytes.hexValue?_hexDigit (m % 16) (by omega)
  have hnumber : 16 * (16 * (16 * (16 * 0 + n / 16 / 16 / 16 % 16) + n / 16 / 16 % 16) +
      n / 16 % 16) + n % 16 = n := by omega
  simp only [hexNumber?, Text.hexField, List.nil_append, List.cons_append, List.foldlM_cons,
    List.foldlM_nil, hdigit, Option.map_some, Option.bind_eq_bind, Option.bind_some, hnumber]
  rfl

theorem readUnits?_unitEscape (hn : n < 0x10000) (rest : List Char) :
    readUnits? (unitEscape n ++ rest) = withUnits [n] (readUnits? rest) := by
  have hnumber := hexNumber?_hexField hn
  simp only [Text.hexField, List.nil_append, List.cons_append] at hnumber
  simp only [unitEscape, Text.hexField, List.nil_append, List.cons_append]
  rw [readUnits?.eq_def]
  simp [hnumber]

/-! ## Characters -/

theorem withUnits_append (units more : List ℕ) (read : Option (List ℕ × List Char)) :
    withUnits units (withUnits more read) = withUnits (units ++ more) read := by
  cases read with
  | none => rfl
  | some read => simp [withUnits]

theorem isValidChar_toNat (c : Char) :
    c.toNat < 0xd800 ∨ 0xdfff < c.toNat ∧ c.toNat < 0x110000 :=
  c.valid

theorem codeUnits_of_lt (h : c.toNat < 0x10000) : codeUnits c = [c.toNat] := by
  rw [codeUnits, if_pos h]

/-- What is written for a character is read as its code units. -/
theorem readUnits?_jsonChar (c : Char) (rest : List Char) :
    readUnits? (jsonChar c ++ rest) = withUnits (codeUnits c) (readUnits? rest) := by
  unfold jsonChar
  dsimp only
  split
  case isTrue hmark =>
    rcases hmark with rfl | rfl
    · exact readUnits?_shortEscape (by decide) rfl rest
    · exact readUnits?_shortEscape (by decide) rfl rest
  case isFalse hmark =>
  obtain ⟨hquote, hslash⟩ := not_or.1 hmark
  split
  case isTrue hshown =>
    rw [List.singleton_append, readUnits?_plain hquote hslash hshown.1]
  case isFalse =>
  split
  case isTrue h => subst h; exact readUnits?_shortEscape (by decide) rfl rest
  case isFalse =>
  split
  case isTrue h => subst h; exact readUnits?_shortEscape (by decide) rfl rest
  case isFalse =>
  split
  case isTrue h => subst h; exact readUnits?_shortEscape (by decide) rfl rest
  case isFalse =>
  split
  case isTrue h =>
    rw [codeUnits_of_lt (by omega), h]
    exact readUnits?_shortEscape (by decide) rfl rest
  case isFalse =>
  split
  case isTrue h =>
    rw [codeUnits_of_lt (by omega), h]
    exact readUnits?_shortEscape (by decide) rfl rest
  case isFalse =>
  split
  case isTrue h =>
    rw [codeUnits_of_lt h]
    exact readUnits?_unitEscape h rest
  case isFalse h =>
    have hvalid := isValidChar_toNat c
    rw [List.append_assoc, readUnits?_unitEscape (by omega), readUnits?_unitEscape (by omega),
      withUnits_append, codeUnits, if_neg h]
    rfl

theorem decodeUnits?_unit (hunit : ¬ (0xd800 ≤ n ∧ n < 0xe000)) (units : List ℕ) :
    decodeUnits? (n :: units) = (decodeUnits? units).map (Char.ofNat n :: ·) := by
  cases units with
  | nil => simp [decodeUnits?, hunit]
  | cons next units =>
    rw [decodeUnits?, if_neg (by omega), if_neg hunit]

/-- Code units of a character stand for it. -/
theorem decodeUnits?_codeUnits (c : Char) (units : List ℕ) :
    decodeUnits? (codeUnits c ++ units) = (decodeUnits? units).map (c :: ·) := by
  have hvalid := isValidChar_toNat c
  by_cases hsmall : c.toNat < 0x10000
  · rw [codeUnits_of_lt hsmall, List.singleton_append,
      decodeUnits?_unit (by omega), Char.ofNat_toNat]
  · have hpair : 0x10000 + (0xd800 + (c.toNat - 0x10000) / 0x400 - 0xd800) * 0x400 +
        (0xdc00 + (c.toNat - 0x10000) % 0x400 - 0xdc00) = c.toNat := by omega
    rw [codeUnits, if_neg hsmall, List.cons_append, List.singleton_append, decodeUnits?,
      if_pos (by omega), hpair, Char.ofNat_toNat]

/-! ## Whole texts -/

theorem readUnits?_flatMap_jsonChar (cs rest : List Char) :
    readUnits? (cs.flatMap jsonChar ++ '"' :: rest) = some (cs.flatMap codeUnits, rest) := by
  induction cs with
  | nil =>
    rw [List.flatMap_nil, List.nil_append, readUnits?_quote, List.flatMap_nil]
  | cons c cs ih =>
    rw [List.flatMap_cons, List.append_assoc, readUnits?_jsonChar, ih, List.flatMap_cons]
    rfl

theorem decodeUnits?_flatMap_codeUnits (cs : List Char) :
    decodeUnits? (cs.flatMap codeUnits) = some cs := by
  induction cs with
  | nil => rfl
  | cons c cs ih => rw [List.flatMap_cons, decodeUnits?_codeUnits, ih, Option.map_some]

/-- A text written as a JSON string is read back after the opening quote. -/
theorem exists_readString?_jsonString (s : String) (rest : List Char) :
    ∃ cs, (jsonString s).toList = '"' :: cs ∧ readString? (cs ++ rest) = some (s, rest) := by
  refine ⟨s.toList.flatMap jsonChar ++ ['"'], ?_, ?_⟩
  · rw [jsonString, String.toList_ofList]
    rfl
  · rw [List.append_assoc, List.singleton_append, readString?, readUnits?_flatMap_jsonChar]
    simp only [Option.bind_eq_bind, Option.bind_some, decodeUnits?_flatMap_codeUnits,
      String.ofList_toList]
    rfl

end ValidatorReader.Json
