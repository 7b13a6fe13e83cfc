import ValidatorReader.Proofs.Json.Strings
import ValidatorReader.Proofs.Number.Decimal

/-!
# Values that are read back

A value made of what JSON has is written as a text from which it is read back, however deep it is
nested. A number is read back only if no digit follows it, which is so inside of a text.
-/

namespace ValidatorReader.Json

open Value (jsonString jsonMember jsonItems jsonMembers commaSeparated)

variable {v : Value} {items : List Value} {members : List (String × Value)} {cs rest : List Char}
  {c m : Char} {fuel n : ℕ}

/-- A value made of what JSON has. -/
inductive Plain : Value → Prop
  | null : Plain .null
  | bool (b : Bool) : Plain (.bool b)
  | int (n : ℤ) : Plain (.int n)
  | text (s : String) : Plain (.text s)
  | list {items : List Value} (h : ∀ item ∈ items, Plain item) : Plain (.list items)
  | dict {members : List (String × Value)} (h : ∀ m ∈ members, Plain m.2) : Plain (.dict members)

/-! ## Marks and blanks -/

theorem skipBlanks_cons (h : isBlank c = false) (cs : List Char) : skipBlanks (c :: cs) = c :: cs :=
  List.dropWhile_cons_of_neg (by simp [h])

theorem expect?_self (h : isBlank m = false) (rest : List Char) :
    expect? m (m :: rest) = some rest := by
  rw [expect?, skipBlanks_cons h]
  exact if_pos rfl

theorem expect?_of_ne (h : isBlank c = false) (hne : c ≠ m) (rest : List Char) :
    expect? m (c :: rest) = none := by
  rw [expect?, skipBlanks_cons h]
  exact if_neg hne

theorem readValue?_blank (fuel : ℕ) (cs : List Char) :
    readValue? fuel (' ' :: cs) = readValue? fuel cs := by
  cases fuel with
  | zero => rfl
  | succ fuel => rfl

theorem expect?_blank (m : Char) (cs : List Char) : expect? m (' ' :: cs) = expect? m cs :=
  rfl

theorem readItems?_blank (fuel : ℕ) (cs : List Char) :
    readItems? fuel (' ' :: cs) = readItems? fuel cs := by
  cases fuel with
  | zero => rfl
  | succ fuel => simp only [readItems?, readValue?_blank]

theorem readMembers?_blank (fuel : ℕ) (cs : List Char) :
    readMembers? fuel (' ' :: cs) = readMembers? fuel cs := by
  cases fuel with
  | zero => rfl
  | succ fuel => simp only [readMembers?, expect?_blank]

/-! ## Numbers -/

/-- Whether a number ends in front of a text. -/
def EndsNumber (rest : List Char) : Prop :=
  ∀ c ∈ rest.head?, c.isDigit = false

theorem endsNumber_cons (h : c.isDigit = false) (rest : List Char) : EndsNumber (c :: rest) := by
  intro d hd
  obtain rfl := Option.some.inj hd
  exact h

theorem takeWhile_isDigit_append (h : ∀ c ∈ cs, c.isDigit = true) (hrest : EndsNumber rest) :
    (cs ++ rest).takeWhile Char.isDigit = cs := by
  rw [List.takeWhile_append_of_pos h]
  cases rest with
  | nil => simp
  | cons c rest =>
    have hc : c.isDigit = false := hrest c rfl
    rw [List.takeWhile_cons_of_neg (by simp [hc]), List.append_nil]

/-- A numeral is read up to its end, which the text behind it has to mark. -/
theorem readNatural?_toDigits (n : ℕ) (hrest : EndsNumber rest) :
    readNatural? (Nat.toDigits 10 n ++ rest) = some (n, rest) := by
  have hdigits : (Nat.toDigits 10 n ++ rest).takeWhile Char.isDigit = Nat.toDigits 10 n :=
    takeWhile_isDigit_append (fun c hc ↦ Number.isDigit_of_mem_toDigits hc) hrest
  have hzeros : ¬ ((Nat.toDigits 10 n).head? = some '0' ∧ 1 < (Nat.toDigits 10 n).length) := by
    rintro ⟨hhead, hlong⟩
    by_cases hn : n = 0
    · subst hn
      exact absurd hlong (by decide)
    · exact Number.head?_toDigits hn hhead
  have hne : (Nat.toDigits 10 n).isEmpty = false := by
    rw [List.isEmpty_eq_false_iff]
    exact Nat.toDigits_ne_nil
  simp only [readNatural?, hdigits, hne, Bool.false_or, Bool.and_eq_true, decide_eq_true_eq,
    if_neg hzeros, Nat.ofDigitChars_ten_toDigits, List.drop_left]

theorem readInteger?_of_ne_minus (h : cs.head? ≠ some '-') :
    readInteger? cs = (readNatural? cs).map fun (n, after) ↦ ((n : ℤ), after) := by
  unfold readInteger?
  split
  · exact absurd rfl h
  · rfl

/-- The first character of a numeral, and that it is read back. -/
theorem readInteger?_toString (n : ℤ) (hrest : EndsNumber rest) :
    (∃ c cs, (toString n).toList = c :: cs ∧ (c = '-' ∨ c.isDigit = true)) ∧
      readInteger? ((toString n).toList ++ rest) = some (n, rest) := by
  cases n with
  | ofNat n =>
    obtain ⟨c, cs, hcons⟩ := List.exists_cons_of_ne_nil (Nat.toDigits_ne_nil (n := n) (b := 10))
    have hdigit : c.isDigit = true := by
      apply Number.isDigit_of_mem_toDigits (n := n)
      rw [hcons]
      exact List.mem_cons_self
    have hminus : (Nat.toDigits 10 n ++ rest).head? ≠ some '-' := by
      rw [hcons]
      rintro hhead
      obtain rfl := Option.some.inj hhead
      exact absurd hdigit (by decide)
    rw [Int.ofNat_eq_natCast, Number.toList_toString_ofNat]
    refine ⟨⟨c, cs, hcons, .inr hdigit⟩, ?_⟩
    rw [readInteger?_of_ne_minus hminus, readNatural?_toDigits n hrest]
    rfl
  | negSucc n =>
    rw [Number.toList_toString_neg]
    refine ⟨⟨_, _, rfl, .inl rfl⟩, ?_⟩
    rw [List.cons_append, readInteger?, readNatural?_toDigits (n + 1) hrest]
    rfl

/-! ## Lists and objects -/

/-- Whether a value is read back from in front of any text that ends a number, if there is a unit of
fuel for each of its characters. -/
def IsReadBack (v : Value) : Prop :=
  ∀ fuel rest, v.toJson.length ≤ fuel → EndsNumber rest →
    readValue? fuel (v.toJson.toList ++ rest) = some (v, rest)

theorem exists_jsonString_cons (s : String) : ∃ cs, (jsonString s).toList = '"' :: cs := by
  obtain ⟨cs, hcons, _⟩ := exists_readString?_jsonString s []
  exact ⟨cs, hcons⟩

/-- A value begins neither with a blank nor with the end of a list. -/
theorem exists_toJson_cons (v : Value) :
    ∃ c cs, v.toJson.toList = c :: cs ∧ isBlank c = false ∧ c ≠ ']' := by
  have hstring (s : String) :
      ∃ c cs, (jsonString s).toList = c :: cs ∧ isBlank c = false ∧ c ≠ ']' := by
    obtain ⟨cs, hcons⟩ := exists_jsonString_cons s
    exact ⟨_, cs, hcons, by decide, by decide⟩
  have hobject (members : List String) :
      ∃ c cs, (Value.jsonObject members).toList = c :: cs ∧ isBlank c = false ∧ c ≠ ']' :=
    ⟨'\x7b', (commaSeparated members).toList ++ ['\x7d'], by simp [Value.jsonObject],
      by decide, by decide⟩
  have hlist (items : List Value) :
      ∃ c cs, ("[" ++ commaSeparated (jsonItems items) ++ "]").toList = c :: cs ∧
        isBlank c = false ∧ c ≠ ']' :=
    ⟨'[', (commaSeparated (jsonItems items)).toList ++ [']'], by simp, by decide, by decide⟩
  cases v with
  | null => exact ⟨_, _, rfl, by decide, by decide⟩
  | bool b =>
    cases b with
    | false => exact ⟨_, _, rfl, by decide, by decide⟩
    | true => exact ⟨_, _, rfl, by decide, by decide⟩
  | int n =>
    have hend : EndsNumber [] := nofun
    obtain ⟨⟨c, cs, hcons, hfirst⟩, _⟩ := readInteger?_toString n hend
    refine ⟨c, cs, hcons, ?_⟩
    rcases hfirst with rfl | hdigit
    · decide
    · have hrange := Number.isDigit_iff.1 hdigit
      constructor
      · rw [isBlank, Bool.eq_false_iff]
        intro hblank
        simp only [Bool.or_eq_true, beq_iff_eq] at hblank
        rcases hblank with ((rfl | rfl) | rfl) | rfl <;> exact absurd hdigit (by decide)
      · rintro rfl
        exact absurd hdigit (by decide)
  | text s => exact hstring s
  | bytes b => exact hstring _
  | byteArray b => exact hstring _
  | address a => exact hobject _
  | abiType t => exact hstring _
  | list items => exact hlist items
  | tuple items => exact hlist items
  | dict entries => exact hobject _

/-- A value is not empty, so that its length is fuel for one step at least. -/
theorem exists_fuel_of_length_le (h : v.toJson.length ≤ fuel) : ∃ fuel', fuel = fuel' + 1 := by
  obtain ⟨c, cs, hcons, _⟩ := exists_toJson_cons v
  have hlength : v.toJson.length = cs.length + 1 := by
    rw [← String.length_toList, hcons, List.length_cons]
  exact ⟨fuel - 1, by omega⟩

theorem expect?_jsonItems (hne : items ≠ []) (rest : List Char) :
    expect? ']' ((commaSeparated (jsonItems items)).toList ++ rest) = none := by
  obtain ⟨item, items, rfl⟩ := List.exists_cons_of_ne_nil hne
  obtain ⟨c, cs, hcons, hblank, hbracket⟩ := exists_toJson_cons item
  cases items with
  | nil =>
    rw [jsonItems, jsonItems, commaSeparated, String.intercalate_singleton, hcons,
      List.cons_append]
    exact expect?_of_ne hblank hbracket _
  | cons next items =>
    rw [jsonItems, jsonItems, commaSeparated, String.intercalate_cons_cons, String.toList_append,
      String.toList_append, hcons, List.cons_append, List.cons_append, List.cons_append]
    exact expect?_of_ne hblank hbracket _

/-- Items are read back one by one, with fuel for each of their characters. -/
theorem readItems?_jsonItems (h : ∀ item ∈ items, IsReadBack item) (hne : items ≠ [])
    (hfuel : (commaSeparated (jsonItems items)).length < fuel) (rest : List Char) :
    readItems? fuel ((commaSeparated (jsonItems items)).toList ++ ']' :: rest) =
      some (items, rest) := by
  induction items generalizing fuel with
  | nil => exact absurd rfl hne
  | cons item items ih =>
    obtain ⟨fuel, rfl⟩ := Nat.exists_eq_add_one_of_ne_zero (Nat.ne_zero_of_lt hfuel)
    have hitem : IsReadBack item := h item (by simp)
    cases items with
    | nil =>
      simp only [jsonItems, commaSeparated, String.intercalate_singleton] at hfuel ⊢
      rw [readItems?, hitem fuel _ (by omega) (endsNumber_cons (by decide) rest)]
      simp [expect?_of_ne (c := ']') (m := ',') (by decide) (by decide),
        expect?_self (m := ']') (by decide)]
    | cons next items =>
      have ih (hfuel : (commaSeparated (jsonItems (next :: items))).length < fuel) :=
        ih (fun item hitem ↦ h item (by simp [hitem])) (by simp) hfuel
      simp only [jsonItems, commaSeparated, String.intercalate_cons_cons, String.length_append,
        String.toList_append, List.append_assoc] at hfuel ih ⊢
      have hcomma : ", ".toList = [',', ' '] := rfl
      have hlong : ", ".length = 2 := rfl
      rw [readItems?, hcomma, List.cons_append,
        hitem fuel _ (by omega) (endsNumber_cons (by decide) _)]
      simp only [Option.bind_eq_bind, Option.bind_some, expect?_self (m := ',') (by decide),
        List.singleton_append, readItems?_blank]
      rw [ih (by omega)]
      rfl

theorem expect?_jsonMembers (hne : members ≠ []) (rest : List Char) :
    expect? '\x7d' ((commaSeparated (jsonMembers members)).toList ++ rest) = none := by
  obtain ⟨⟨name, v⟩, members, rfl⟩ := List.exists_cons_of_ne_nil hne
  obtain ⟨cs, hcons⟩ := exists_jsonString_cons name
  have hquote (rest : List Char) : expect? '\x7d' ('"' :: rest) = none :=
    expect?_of_ne (by decide) (by decide) rest
  cases members with
  | nil => simp [jsonMembers, jsonMember, commaSeparated, hcons, hquote]
  | cons next members =>
    simp [jsonMembers, jsonMember, commaSeparated, String.intercalate_cons_cons, hcons, hquote]

/-- A member in front of a text is read, and the text decides whether more are. -/
theorem readMembers?_jsonMember (name : String) (hv : IsReadBack v) (hfuel : v.toJson.length ≤ fuel)
    (hrest : EndsNumber rest) :
    readMembers? (fuel + 1) ((jsonMember name v.toJson).toList ++ rest) =
      match expect? ',' rest with
      | some next => (readMembers? fuel next).map fun (members, after) ↦
          ((name, v) :: members, after)
      | none => (expect? '\x7d' rest).map fun after ↦ ([(name, v)], after) := by
  obtain ⟨cs, hcons, hname⟩ :=
    exists_readString?_jsonString name (':' :: ' ' :: (v.toJson.toList ++ rest))
  have htext : (jsonMember name v.toJson).toList ++ rest =
      '"' :: (cs ++ ':' :: ' ' :: (v.toJson.toList ++ rest)) := by
    simp [jsonMember, hcons]
  rw [htext, readMembers?]
  simp only [expect?_self (m := '"') (by decide), expect?_self (m := ':') (by decide), hname,
    readValue?_blank, hv fuel rest hfuel hrest, Option.bind_eq_bind, Option.bind_some]
  cases expect? ',' rest with
  | none => simp only [Option.map_eq_bind]; rfl
  | some next => simp only [Option.map_eq_bind]; rfl

/-- Members are read back with their names, in their order. -/
theorem readMembers?_jsonMembers (h : ∀ m ∈ members, IsReadBack m.2) (hne : members ≠ [])
    (hfuel : (commaSeparated (jsonMembers members)).length < fuel) (rest : List Char) :
    readMembers? fuel ((commaSeparated (jsonMembers members)).toList ++ '\x7d' :: rest) =
      some (members, rest) := by
  induction members generalizing fuel with
  | nil => exact absurd rfl hne
  | cons member members ih =>
    obtain ⟨fuel, rfl⟩ := Nat.exists_eq_add_one_of_ne_zero (Nat.ne_zero_of_lt hfuel)
    obtain ⟨name, v⟩ := member
    have hv : IsReadBack v := h (name, v) (by simp)
    have hshort : v.toJson.length ≤ (jsonMember name v.toJson).length := by simp [jsonMember]
    cases members with
    | nil =>
      simp only [jsonMembers, commaSeparated, String.intercalate_singleton] at hfuel ⊢
      rw [readMembers?_jsonMember name hv (by omega) (endsNumber_cons (by decide) rest)]
      simp [expect?_of_ne (c := '\x7d') (m := ',') (by decide) (by decide),
        expect?_self (m := '\x7d') (by decide)]
    | cons next members =>
      have ih (hfuel : (commaSeparated (jsonMembers (next :: members))).length < fuel) :=
        ih (fun m hm ↦ h m (by simp [hm])) (by simp) hfuel
      simp only [jsonMembers, commaSeparated, String.intercalate_cons_cons, String.length_append,
        String.toList_append, List.append_assoc] at hfuel ih ⊢
      have hcomma : ", ".toList = [',', ' '] := rfl
      have hlong : ", ".length = 2 := rfl
      rw [hcomma, List.cons_append,
        readMembers?_jsonMember name hv (by omega) (endsNumber_cons (by decide) _)]
      simp only [expect?_self (m := ',') (by decide), List.singleton_append, readMembers?_blank]
      rw [ih (by omega)]
      rfl

/-! ## All values -/

/-- The first character decides which kind of value is read. -/
theorem readValue?_cons (h : isBlank c = false) (fuel : ℕ) (rest : List Char) :
    readValue? (fuel + 1) (c :: rest) =
      if c = '"' then (readString? rest).map fun (s, after) ↦ (.text s, after)
      else if c = '[' then
        match expect? ']' rest with
        | some after => some (.list [], after)
        | none => (readItems? fuel rest).map fun (items, after) ↦ (.list items, after)
      else if c = '\x7b' then
        match expect? '\x7d' rest with
        | some after => some (.dict [], after)
        | none => (readMembers? fuel rest).map fun (members, after) ↦ (.dict members, after)
      else if c = '-' || c.isDigit then
        (readInteger? (c :: rest)).map fun (n, after) ↦ (.int n, after)
      else readWord? (c :: rest) := by
  have hskip : skipBlanks (c :: rest) = c :: rest := skipBlanks_cons h rest
  unfold readValue?
  generalize skipBlanks (c :: rest) = text at hskip
  subst hskip
  rfl

theorem isReadBack_int (n : ℤ) : IsReadBack (.int n) := by
  intro fuel rest hfuel hrest
  obtain ⟨⟨c, cs, hcons, hfirst⟩, hread⟩ := readInteger?_toString n hrest
  have hjson : (Value.int n).toJson.toList = c :: cs := by rw [Value.toJson, hcons]
  obtain ⟨c', cs', hcons', hblank, _⟩ := exists_toJson_cons (.int n)
  obtain ⟨rfl, rfl⟩ := List.cons.inj (hjson.symm.trans hcons')
  obtain ⟨fuel, rfl⟩ := exists_fuel_of_length_le hfuel
  have hne (d : Char) (hd : d.isDigit = false) (hminus : d ≠ '-') : c ≠ d := by
    rintro rfl
    rcases hfirst with rfl | hdigit
    · exact hminus rfl
    · exact absurd hdigit (by simp [hd])
  rw [hjson, List.cons_append, readValue?_cons hblank, if_neg (hne _ (by decide) (by decide)),
    if_neg (hne _ (by decide) (by decide)), if_neg (hne _ (by decide) (by decide)),
    if_pos (by simpa using hfirst), ← List.cons_append, ← hcons, hread, Option.map_some]

theorem isReadBack_text (s : String) : IsReadBack (.text s) := by
  intro fuel rest hfuel _
  obtain ⟨cs, hcons, hread⟩ := exists_readString?_jsonString s rest
  have hjson : (Value.text s).toJson.toList = '"' :: cs := by rw [Value.toJson, hcons]
  obtain ⟨fuel, rfl⟩ := exists_fuel_of_length_le hfuel
  rw [hjson, List.cons_append, readValue?_cons (by decide), if_pos rfl, hread, Option.map_some]

theorem isReadBack_list (h : ∀ item ∈ items, IsReadBack item) : IsReadBack (.list items) := by
  intro fuel rest hfuel _
  have hjson : (Value.list items).toJson.toList ++ rest =
      '[' :: ((commaSeparated (jsonItems items)).toList ++ ']' :: rest) := by
    simp [Value.toJson]
  have hlength : (Value.list items).toJson.length =
      1 + (commaSeparated (jsonItems items)).length + 1 := by
    rw [Value.toJson, String.length_append, String.length_append]
    rfl
  obtain ⟨fuel, rfl⟩ := exists_fuel_of_length_le hfuel
  rw [hjson, readValue?_cons (by decide), if_neg (by decide), if_pos rfl]
  by_cases hitems : items = []
  · subst hitems
    rfl
  · rw [expect?_jsonItems hitems, readItems?_jsonItems h hitems (by omega), Option.map_some]

theorem isReadBack_dict (h : ∀ m ∈ members, IsReadBack m.2) : IsReadBack (.dict members) := by
  intro fuel rest hfuel _
  have hjson : (Value.dict members).toJson.toList ++ rest =
      '\x7b' :: ((commaSeparated (jsonMembers members)).toList ++ '\x7d' :: rest) := by
    simp [Value.toJson, Value.jsonObject]
  have hlength : (Value.dict members).toJson.length =
      1 + (commaSeparated (jsonMembers members)).length + 1 := by
    rw [Value.toJson, Value.jsonObject, String.length_append, String.length_append]
    rfl
  obtain ⟨fuel, rfl⟩ := exists_fuel_of_length_le hfuel
  rw [hjson, readValue?_cons (by decide), if_neg (by decide), if_neg (by decide), if_pos rfl]
  by_cases hmembers : members = []
  · subst hmembers
    rfl
  · rw [expect?_jsonMembers hmembers, readMembers?_jsonMembers h hmembers (by omega),
      Option.map_some]

/-- By induction on what a plain value is made of. -/
theorem Plain.isReadBack (h : Plain v) : IsReadBack v := by
  induction h with
  | null =>
    intro fuel rest hfuel _
    obtain ⟨fuel, rfl⟩ := exists_fuel_of_length_le hfuel
    rfl
  | bool b =>
    intro fuel rest hfuel _
    obtain ⟨fuel, rfl⟩ := exists_fuel_of_length_le hfuel
    cases b with
    | false => rfl
    | true => rfl
  | int n => exact isReadBack_int n
  | text s => exact isReadBack_text s
  | list _ ih => exact isReadBack_list ih
  | dict _ ih => exact isReadBack_dict ih

/-- What is written is read back. -/
theorem read?_toJson (h : Plain v) : read? v.toJson = some v := by
  have hread := h.isReadBack v.toJson.length [] le_rfl nofun
  rw [List.append_nil] at hread
  rw [read?, hread]
  rfl

end ValidatorReader.Json
