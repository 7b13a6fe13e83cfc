import ValidatorReader.Proofs.Text.Quoted
import ValidatorReader.Value.Json

/-!
# Values on a single line

Every value is written as JSON in printable ASCII, whatever the characters of its texts are. So it
holds no line feed and stands on a line of its own.
-/

namespace ValidatorReader.Json

open Value (jsonString jsonMember jsonItems jsonMembers commaSeparated)

def isShown (c : Char) : Bool :=
  0x20 ≤ c.toNat && c.toNat ≤ 0x7e

/-- Whether all characters of a text are printable ASCII. -/
def IsPlainLine (s : String) : Prop :=
  ∀ c ∈ s.toList, isShown c = true

theorem isPlainLine_of_all {s : String} (h : s.toList.all isShown = true) : IsPlainLine s :=
  List.all_eq_true.1 h

theorem IsPlainLine.append {s t : String} (hs : IsPlainLine s) (ht : IsPlainLine t) :
    IsPlainLine (s ++ t) :=
  Text.forall_mem_append hs ht

theorem isPlainLine_commaSeparated {parts : List String} (h : ∀ s ∈ parts, IsPlainLine s) :
    IsPlainLine (commaSeparated parts) :=
  Text.forall_mem_commaSeparated (isPlainLine_of_all (by decide)) h

theorem all_isShown_unitEscape (n : ℕ) : (Value.unitEscape n).all isShown = true := by
  have hdigit : ∀ m < 16, isShown (Bytes.hexDigit m) = true := by decide
  have hmod (m : ℕ) : isShown (Bytes.hexDigit (m % 16)) = true := hdigit _ (by omega)
  simp only [Value.unitEscape, Text.hexField, List.nil_append, List.cons_append, List.all_cons,
    List.all_nil, hmod]
  decide

/-- Control characters are escaped, so that no text breaks a line. -/
theorem all_isShown_jsonChar (c : Char) : (Value.jsonChar c).all isShown = true := by
  unfold Value.jsonChar
  dsimp only
  split
  case isTrue hmark => rcases hmark with rfl | rfl <;> decide
  case isFalse =>
  split
  case isTrue hshown => simpa [isShown] using hshown
  case isFalse =>
  iterate 5
    split
    · decide
  split
  · exact all_isShown_unitEscape _
  · rw [List.all_append, all_isShown_unitEscape, all_isShown_unitEscape]
    rfl

theorem isPlainLine_jsonString (s : String) : IsPlainLine (jsonString s) := by
  apply isPlainLine_of_all
  have hquote : isShown '"' = true := by decide
  simp only [jsonString, String.toList_ofList, List.cons_append, List.all_cons, List.all_append,
    List.all_flatMap, all_isShown_jsonChar, List.all_nil, hquote, Bool.and_true]
  simp

theorem isPlainLine_jsonMember {s : String} (name : String) (h : IsPlainLine s) :
    IsPlainLine (jsonMember name s) := by
  have hcolon : IsPlainLine ": " := isPlainLine_of_all (by decide)
  exact ((isPlainLine_jsonString name).append hcolon).append h

theorem isPlainLine_jsonObject {parts : List String} (h : ∀ s ∈ parts, IsPlainLine s) :
    IsPlainLine (Value.jsonObject parts) := by
  have hopen : IsPlainLine "\x7b" := isPlainLine_of_all (by decide)
  have hclose : IsPlainLine "\x7d" := isPlainLine_of_all (by decide)
  exact (hopen.append (isPlainLine_commaSeparated h)).append hclose

theorem isPlainLine_brackets {parts : List String} (h : ∀ s ∈ parts, IsPlainLine s) :
    IsPlainLine ("[" ++ commaSeparated parts ++ "]") := by
  have hopen : IsPlainLine "[" := isPlainLine_of_all (by decide)
  have hclose : IsPlainLine "]" := isPlainLine_of_all (by decide)
  exact (hopen.append (isPlainLine_commaSeparated h)).append hclose

theorem isPlainLine_toString (n : ℤ) : IsPlainLine (toString n) := by
  intro c hc
  rcases Number.isDigit_or_eq_dash hc with hdigit | rfl
  · have hrange := Number.isDigit_iff.1 hdigit
    simp only [isShown, Bool.and_eq_true, decide_eq_true_eq]
    omega
  · decide

mutual

/-- Every value is written on a single line. -/
theorem isPlainLine_toJson : ∀ v : Value, IsPlainLine v.toJson
  | .null => isPlainLine_of_all (by decide)
  | .bool false => isPlainLine_of_all (by decide)
  | .bool true => isPlainLine_of_all (by decide)
  | .int n => isPlainLine_toString n
  | .text s => isPlainLine_jsonString s
  | .bytes b => isPlainLine_jsonString (Bytes.toBase64 b)
  | .byteArray b => isPlainLine_jsonString (Bytes.toBase64 b)
  | .address a => by
    rw [Value.toJson]
    apply isPlainLine_jsonObject
    intro s hs
    obtain rfl := List.mem_singleton.1 hs
    exact isPlainLine_jsonMember "value" (isPlainLine_jsonString _)
  | .abiType t => isPlainLine_jsonString t.name
  | .list items => by
    rw [Value.toJson]
    exact isPlainLine_brackets (isPlainLine_jsonItems items)
  | .tuple items => by
    rw [Value.toJson]
    exact isPlainLine_brackets (isPlainLine_jsonItems items)
  | .dict entries => by
    rw [Value.toJson]
    exact isPlainLine_jsonObject (isPlainLine_jsonMembers entries)

theorem isPlainLine_jsonItems : ∀ items : List Value, ∀ s ∈ jsonItems items, IsPlainLine s
  | [] => nofun
  | item :: items => by
    intro s hs
    rcases List.mem_cons.1 hs with rfl | hs
    · exact isPlainLine_toJson item
    · exact isPlainLine_jsonItems items s hs

theorem isPlainLine_jsonMembers :
    ∀ members : List (String × Value), ∀ s ∈ jsonMembers members, IsPlainLine s
  | [] => nofun
  | (name, v) :: members => by
    intro s hs
    rcases List.mem_cons.1 hs with rfl | hs
    · exact isPlainLine_jsonMember name (isPlainLine_toJson v)
    · exact isPlainLine_jsonMembers members s hs

end

end ValidatorReader.Json
