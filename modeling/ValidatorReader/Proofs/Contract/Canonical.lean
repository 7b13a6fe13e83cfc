import ValidatorReader.Contract.Signature
import ValidatorReader.Proofs.Attempt

/-!
# Canonical forms

The canonical form of a signature is read back: the function name ends at the first parenthesis,
since no name has one, and the types end at the commas, since no type has one. So the texts that are
read are the canonical forms, and two signatures share one exactly if they agree in name and
argument types.
-/

namespace ValidatorReader

open Attempt

namespace AbiType

/-- Types are known by their names, and each by its own. -/
theorem ofName?_eq_some_iff {name : String} {t : AbiType} :
    ofName? name = some t ↔ name = t.name := by
  constructor
  · intro h
    unfold ofName? at h
    split at h
    case isTrue hname =>
      obtain rfl := Option.some.inj h
      exact hname
    split at h
    case isTrue hname =>
      obtain rfl := Option.some.inj h
      exact hname
    case isFalse => cases h
  · rintro rfl
    exact ofName?_name t

theorem comma_notMem_name (t : AbiType) : ',' ∉ t.name.toList := by
  cases t <;> decide

end AbiType

namespace Signature

variable {f g : Signature} {name : String} {types : List AbiType} {cs : List Char}

/-! ## Signatures made of values -/

/-- Values pass for types exactly if each of them is a type. -/
theorem checkTypes_eq_ok_iff {values : List Value} :
    checkTypes name values = .ok types ↔ values = types.map .abiType := by
  rw [checkTypes, mapM_eq_ok_iff]
  constructor
  · intro h
    induction h with
    | nil => rfl
    | @cons value t values types hvalue _ ih =>
      rw [List.map_cons, ih]
      cases value with
      | abiType t' =>
        obtain rfl := Except.ok.inj hvalue
        rfl
      | _ => cases hvalue
  · rintro rfl
    rw [List.forall₂_map_left_iff, List.forall₂_same]
    exact fun _ _ ↦ rfl

/-- A signature is made of a function name and of types, and of nothing else. -/
theorem ofValues_eq_ok_iff {value : Value} {arguments returns : List Value} :
    ofValues value arguments returns = .ok f ↔
      value = .text f.name ∧ arguments = f.argumentTypes.map .abiType ∧
        returns = f.returnTypes.map .abiType := by
  obtain ⟨fname, argumentTypes, returnTypes, hfname⟩ := f
  constructor
  · intro h
    cases value with
    | text s =>
      simp only [ofValues] at h
      split at h
      · simp only [bind_eq_ok_iff, checkTypes_eq_ok_iff, pure_eq_ok_iff] at h
        obtain ⟨_, rfl, _, rfl, heq⟩ := h
        obtain ⟨rfl, rfl, rfl⟩ := Signature.mk.inj heq
        exact ⟨rfl, rfl, rfl⟩
      · cases h
    | _ => cases h
  · rintro ⟨rfl, rfl, rfl⟩
    simp only [ofValues, dif_pos hfname, bind_eq_ok_iff, checkTypes_eq_ok_iff, pure_eq_ok_iff]
    exact ⟨argumentTypes, rfl, returnTypes, rfl, rfl⟩

/-! ## Reading a canonical form -/

/-- The types in a text that are separated by single commas. -/
def readTypes? (cs : List Char) : Option (List AbiType) :=
  if cs = [] then some []
  else (cs.splitOn ',').mapM fun part ↦ AbiType.ofName? (String.ofList part)

/-- The function name and the argument types of a canonical form: what stands in front of the first
parenthesis, and what stands between it and a closing one at the end. -/
def readCanonical? (s : String) : Option (String × List AbiType) :=
  let name := String.ofList (s.toList.takeWhile (· != '('))
  match s.toList.dropWhile (· != '(') with
  | [] => none
  | _ :: rest =>
    if isFunctionName name = true ∧ rest.getLast? = some ')' then
      (readTypes? rest.dropLast).map fun types ↦ (name, types)
    else none

/-- The names of types, separated by commas. -/
def typeList (types : List AbiType) : List Char :=
  [','].intercalate (types.map fun t ↦ t.name.toList)

theorem toList_canonical (f : Signature) :
    f.canonical.toList = f.name.toList ++ '(' :: (typeList f.argumentTypes ++ [')']) := by
  simp [canonical, typeList, String.toList_intercalate, Function.comp_def]

theorem typeList_ne_nil (h : types ≠ []) : typeList types ≠ [] := by
  obtain ⟨t, types, rfl⟩ := List.exists_cons_of_ne_nil h
  have hname : t.name.toList ≠ [] := by cases t <;> decide
  cases types with
  | nil => simpa [typeList] using hname
  | cons u types => simp [typeList, List.intercalate_cons_cons, hname]

/-- Parts of a text are all names of types exactly if they are the names of these types. -/
theorem mapM_ofName?_eq_some_iff {parts : List (List Char)} :
    (parts.mapM fun part ↦ AbiType.ofName? (String.ofList part)) = some types ↔
      parts = types.map fun t ↦ t.name.toList := by
  have hpart (part : List Char) (t : AbiType) :
      AbiType.ofName? (String.ofList part) = some t ↔ part = t.name.toList := by
    rw [AbiType.ofName?_eq_some_iff, ← String.toList_inj, String.toList_ofList]
  induction parts generalizing types with
  | nil => cases types <;> simp
  | cons part parts ih =>
    simp only [List.mapM_cons, Option.bind_eq_bind, Option.bind_eq_some_iff, hpart, ih]
    cases types <;> simp

/-- The types that a text lists are read from it, and from no other text. -/
theorem readTypes?_eq_some_iff : readTypes? cs = some types ↔ cs = typeList types := by
  unfold readTypes?
  split
  case isTrue hempty =>
    rw [hempty, Option.some.injEq]
    constructor
    · rintro rfl
      rfl
    · intro h
      by_contra hne
      exact typeList_ne_nil (Ne.symm hne) h.symm
  case isFalse hne =>
    rw [mapM_ofName?_eq_some_iff]
    constructor
    · intro h
      rw [typeList, ← h, List.intercalate_splitOn]
    · rintro rfl
      apply List.splitOn_intercalate
      · intro part hpart
        obtain ⟨t, _, rfl⟩ := List.mem_map.1 hpart
        exact t.comma_notMem_name
      · rintro htypes
        rw [typeList, htypes] at hne
        exact hne rfl

/-! ## Canonical forms -/

/-- The name of a function ends in front of the parenthesis, as it has none itself. -/
theorem ne_parenthesis_of_mem (h : isFunctionName name = true) {c : Char} (hc : c ∈ name.toList) :
    (c != '(') = true := by
  have hchar : isNameChar c = true := by
    unfold isFunctionName at h
    split at h
    case h_1 => cases h
    case h_2 first rest hname =>
      rw [Bool.and_eq_true, List.all_eq_true] at h
      rw [hname] at hc
      rcases List.mem_cons.1 hc with rfl | hc
      · simp [isNameChar, h.1]
      · exact h.2 c hc
  rw [bne_iff_ne]
  rintro rfl
  revert hchar
  decide

/-- The texts that are read are the canonical forms, each with its own name and types. -/
theorem readCanonical?_eq_some_iff {s : String} :
    readCanonical? s = some (name, types) ↔
      ∃ f : Signature, f.canonical = s ∧ f.name = name ∧ f.argumentTypes = types := by
  constructor
  · intro h
    have hs := List.takeWhile_append_dropWhile (p := (· != '(')) (l := s.toList)
    have hfirst := List.head?_dropWhile_not (· != '(') s.toList
    unfold readCanonical? at h
    dsimp only at h
    split at h
    case h_1 => cases h
    case h_2 c rest hrest =>
      rw [hrest] at hs hfirst
      obtain ⟨⟨hname, hlast⟩, hread⟩ := Option.ite_none_right_eq_some.1 h
      obtain ⟨types, htypes, heq⟩ := Option.map_eq_some_iff.1 hread
      obtain ⟨rfl, rfl⟩ := Prod.mk.inj heq
      refine ⟨⟨_, types, [], hname⟩, ?_, rfl, rfl⟩
      have hopen : c = '(' := by simpa using hfirst
      have hclose : rest.dropLast ++ [')'] = rest := List.dropLast_append_getLast? _ hlast
      rw [hopen] at hs
      rw [← String.toList_inj, toList_canonical, ← readTypes?_eq_some_iff.1 htypes,
        String.toList_ofList, hclose, hs]
  · rintro ⟨f, rfl, rfl, rfl⟩
    have hfront : ∀ c ∈ f.name.toList, (c != '(') = true :=
      fun c hc ↦ ne_parenthesis_of_mem f.isFunctionName_name hc
    have htake : f.canonical.toList.takeWhile (· != '(') = f.name.toList := by
      rw [toList_canonical, List.takeWhile_append_of_pos hfront,
        List.takeWhile_cons_of_neg (by decide), List.append_nil]
    have hdrop : f.canonical.toList.dropWhile (· != '(') =
        '(' :: (typeList f.argumentTypes ++ [')']) := by
      rw [toList_canonical, List.dropWhile_append_of_pos hfront,
        List.dropWhile_cons_of_neg (by decide)]
    unfold readCanonical?
    rw [htake, hdrop, String.ofList_toList]
    simp only [f.isFunctionName_name, List.getLast?_concat, List.dropLast_concat, and_self, if_true,
      readTypes?_eq_some_iff.2 rfl, Option.map_some]

/-- A canonical form is the name with the argument types in parentheses, from which both are read
back. So signatures share it exactly if they agree in both, whatever they return. -/
theorem canonical_identifies (f g : Signature) :
    (f.canonical = g.canonical ↔ f.name = g.name ∧ f.argumentTypes = g.argumentTypes) ∧
    f.canonical = f.name ++ "(" ++ ",".intercalate (f.argumentTypes.map AbiType.name) ++ ")" ∧
    (∀ s name types, readCanonical? s = some (name, types) ↔
      ∃ h : Signature, h.canonical = s ∧ h.name = name ∧ h.argumentTypes = types) ∧
    ∀ value arguments returns, ofValues value arguments returns = .ok f ↔
      value = .text f.name ∧ arguments = f.argumentTypes.map .abiType ∧
        returns = f.returnTypes.map .abiType := by
  have hread (h : Signature) : readCanonical? h.canonical = some (h.name, h.argumentTypes) :=
    readCanonical?_eq_some_iff.2 ⟨h, rfl, rfl, rfl⟩
  refine ⟨⟨?_, ?_⟩, rfl, fun _ _ _ ↦ readCanonical?_eq_some_iff, fun _ _ _ ↦ ofValues_eq_ok_iff⟩
  · intro heq
    rw [← Prod.mk.injEq, ← Option.some.injEq, ← hread f, ← hread g, heq]
  · rintro ⟨hname, htypes⟩
    rw [canonical, canonical, hname, htypes]

example : readCanonical? "validatorAt(address[],uint256)" =
    some ("validatorAt", [.addressArray, .uint256]) := by decide

example : readCanonical? "validatorAt(uint256,)" = none := by decide

end Signature

end ValidatorReader
