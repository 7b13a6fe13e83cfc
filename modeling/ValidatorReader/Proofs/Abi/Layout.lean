import ValidatorReader.Proofs.Abi.Position

/-!
# Well-formed layouts of return data

Decoding succeeds exactly on the data that has the whole head, whose arrays lie behind the head and
inside the data with all their items, and whose items have no dirty padding. It then gives one value
for each type, read at the place of the type in the head.
-/

namespace ValidatorReader.Abi

open Attempt

/-! ## Values -/

/-- Addresses in order are told apart by their bytes. -/
theorem map_bytes_injective : Function.Injective (List.map Address.bytes) :=
  List.map_injective_iff.2 fun _ _ ↦ Address.ext

/-- Whether a value is the one that the head word at a position stands for. -/
def IsValueAt (data : List UInt8) (position : Nat) : AbiType → TypedValue → Prop
  | .uint256, .uint256 n _ => n = numberAt data position
  | .addressArray, .addresses as => as.map Address.bytes = itemBytes data (numberAt data position)
  | _, _ => False

/-- A place holds a number exactly if it is that of the word there. -/
theorem isValueAt_uint256_iff {data : List UInt8} {position : Nat} {value : TypedValue} :
    IsValueAt data position .uint256 value ↔
      ∃ h, value = .uint256 (numberAt data position) h := by
  constructor
  · intro his
    cases value with
    | uint256 n h =>
      obtain rfl : n = numberAt data position := his
      exact ⟨h, rfl⟩
    | truth b => exact his.elim
    | addresses as => exact his.elim
  · rintro ⟨h, rfl⟩
    exact rfl

/-- A place holds an array exactly if its addresses are the items at the offset that stands there.
-/
theorem isValueAt_addressArray_iff {data : List UInt8} {position : Nat} {value : TypedValue} :
    IsValueAt data position .addressArray value ↔
      ∃ as, value = .addresses as ∧ as.map Address.bytes = itemBytes data (numberAt data position) := by
  constructor
  · intro his
    cases value with
    | uint256 n h => exact his.elim
    | truth b => exact his.elim
    | addresses as => exact ⟨as, rfl, his⟩
  · rintro ⟨as, rfl, has⟩
    exact has

theorem IsValueAt.type_eq {data : List UInt8} {position : Nat} {type : AbiType} {value : TypedValue}
    (h : IsValueAt data position type value) : value.type = type := by
  cases type with
  | uint256 =>
    obtain ⟨_, rfl⟩ := isValueAt_uint256_iff.1 h
    rfl
  | addressArray =>
    obtain ⟨as, rfl, _⟩ := isValueAt_addressArray_iff.1 h
    rfl

theorem wrap_natCast {n : Nat} (h : n < uint256Bound) :
    TypedValue.wrap .uint256 (.int n) = .ok (.uint256 n h) := by
  show TypedValue.ofInt n = _
  simp [TypedValue.ofInt, h]

theorem wrap_hexTexts (as : List Address) :
    TypedValue.wrap .addressArray (.tuple (as.map fun a ↦ .text a.toHex)) =
      .ok (.addresses as) := by
  have htexts : (as.map fun a ↦ Value.text a.toHex).mapM Address.ofTextValue = .ok as := by
    rw [mapM_eq_ok_iff, List.forall₂_map_left_iff, List.forall₂_same]
    intro a _
    simp [Address.ofTextValue, Except.mapError]
  simp [TypedValue.wrap, Value.items?, htexts]

/-- Wrapping what a slot holds never fails. -/
theorem wrap_of_readSlot {headSize position : Nat} {data : List UInt8} {type : AbiType}
    {slot : Slot} {raw : Value} (hslot : slotAt headSize data position type = .ok slot)
    (hraw : readSlot data slot = .ok raw) :
    ∃ value, TypedValue.wrap type raw = .ok value ∧ IsValueAt data position type value := by
  cases type with
  | uint256 =>
    obtain ⟨word, hword, rfl⟩ := slotAt_uint256_eq_ok_iff.1 hslot
    simp only [readSlot, Except.ok.injEq] at hraw
    subst hraw
    have hword := toNat_of_wordAt hword
    have hbound : word.toNat < uint256Bound := hword ▸ numberAt_lt_bound data position
    exact ⟨_, wrap_natCast hbound, hword⟩
  | addressArray =>
    obtain ⟨_, _, _, rfl⟩ := slotAt_addressArray_eq_ok_iff.1 hslot
    simp only [readSlot, bind_eq_ok_iff, pure_eq_ok_iff] at hraw
    obtain ⟨as, has, rfl⟩ := hraw
    exact ⟨_, wrap_hexTexts as, (readArray_eq_ok_iff.1 has).2.2.2⟩

theorem holdsArray_of_readSlot {headSize position : Nat} {data : List UInt8} {slot : Slot}
    {raw : Value} (hslot : slotAt headSize data position .addressArray = .ok slot)
    (hraw : readSlot data slot = .ok raw) : HoldsArray data headSize (numberAt data position) := by
  obtain ⟨_, hbehind, hinside, rfl⟩ := slotAt_addressArray_eq_ok_iff.1 hslot
  simp only [readSlot, bind_eq_ok_iff] at hraw
  obtain ⟨as, has, _⟩ := hraw
  obtain ⟨hlength, hitems, hpadding, _⟩ := readArray_eq_ok_iff.1 has
  exact ⟨hbehind, hinside, hlength, hitems, hpadding⟩

/-! ## Whole data -/

/-- Data laid out for types: it has the whole head, and each head word of an array points to one. -/
structure WellFormed (types : List AbiType) (data : List UInt8) : Prop where
  head : 32 * types.length ≤ data.length
  arrays : ∀ index, types[index]? = some .addressArray →
    HoldsArray data (32 * types.length) (numberAt data (32 * index))

instance (types : List AbiType) (data : List UInt8) : Decidable (WellFormed types data) :=
  decidable_of_iff
    (32 * types.length ≤ data.length ∧ ∀ entry ∈ types.zipIdx, entry.1 = .addressArray →
      HoldsArray data (32 * types.length) (numberAt data (32 * entry.2)))
    ⟨fun ⟨hhead, harrays⟩ ↦ ⟨hhead, fun index htype ↦
      harrays (.addressArray, index) (List.mem_zipIdx_iff_getElem?.2 htype) rfl⟩,
    fun ⟨hhead, harrays⟩ ↦ ⟨hhead, fun entry hentry htype ↦
      harrays entry.2 (htype ▸ List.mem_zipIdx_iff_getElem?.1 hentry)⟩⟩

/-- The values that data holds for types: one for each type, in order. -/
structure HoldsValues (types : List AbiType) (data : List UInt8) (values : List TypedValue) :
    Prop where
  length_eq : values.length = types.length
  value_at : ∀ index type, types[index]? = some type →
    ∃ value, values[index]? = some value ∧ IsValueAt data (32 * index) type value

/-- The values of data are tagged with the types that they were read for. -/
theorem HoldsValues.map_type {types : List AbiType} {data : List UInt8} {values : List TypedValue}
    (h : HoldsValues types data values) : values.map TypedValue.type = types := by
  apply List.ext_getElem?
  intro index
  rw [List.getElem?_map]
  cases htype : types[index]? with
  | none =>
    have hindex : values.length ≤ index := h.length_eq ▸ List.getElem?_eq_none_iff.1 htype
    rw [List.getElem?_eq_none hindex, Option.map_none]
  | some type =>
    obtain ⟨value, hvalue, his⟩ := h.value_at index type htype
    rw [hvalue, Option.map_some, his.type_eq]

theorem decode_nil (types : List AbiType) : decode types [] = .ok [] := rfl

theorem decode_of_ne_nil {data : List UInt8} (types : List AbiType) (h : data ≠ []) :
    decode types data = (readValues types data).mapError .decoding >>= fun values ↦
      (types.zip values).mapM fun (type, value) ↦ TypedValue.wrap type value := by
  rw [decode, if_neg (by simpa using h)]

theorem readValues_eq_bind (types : List AbiType) (data : List UInt8) :
    readValues types data =
      (types.zipIdx.mapM fun entry ↦
        slotAt (32 * types.length) data (32 * entry.2) entry.1) >>=
      fun slots ↦ slots.mapM (readSlot data) := by
  have hhead := readHead_drop (32 * types.length) data types 0
  simp only [Nat.mul_zero, List.drop_zero] at hhead
  rw [readValues, hhead]

/-- The plain value for each type is read from the slot at its place in the head. -/
theorem getElem?_readValues {types : List AbiType} {data : List UInt8} {values : List Value}
    (h : readValues types data = .ok values) {index : Nat} {type : AbiType}
    (htype : types[index]? = some type) :
    ∃ slot value, slotAt (32 * types.length) data (32 * index) type = .ok slot ∧
      readSlot data slot = .ok value ∧ values[index]? = some value := by
  rw [readValues_eq_bind, bind_eq_ok_iff] at h
  obtain ⟨slots, hslots, hvalues⟩ := h
  have hentry : types.zipIdx[index]? = some (type, index) := by
    simp [List.getElem?_zipIdx, htype]
  obtain ⟨slot, hget, hslot⟩ := getElem?_of_mapM_eq_ok hslots hentry
  obtain ⟨value, hvalue, hread⟩ := getElem?_of_mapM_eq_ok hvalues hget
  exact ⟨slot, value, hslot, hread, hvalue⟩

theorem length_readValues {types : List AbiType} {data : List UInt8} {values : List Value}
    (h : readValues types data = .ok values) : values.length = types.length := by
  rw [readValues_eq_bind, bind_eq_ok_iff] at h
  obtain ⟨slots, hslots, hvalues⟩ := h
  rw [length_of_mapM_eq_ok hvalues, length_of_mapM_eq_ok hslots, List.length_zipIdx]

/-- Data that is read to its end has every boundary the layout asks for. -/
theorem wellFormed_of_readValues {types : List AbiType} {data : List UInt8} {values : List Value}
    (h : readValues types data = .ok values) : WellFormed types data where
  head := by
    rcases Nat.eq_zero_or_pos types.length with hzero | hpos
    · omega
    · obtain ⟨slot, _, hslot, _⟩ := getElem?_readValues h
        (List.getElem?_eq_getElem (Nat.sub_one_lt_of_lt hpos))
      simp only [slotAt, bind_eq_ok_iff] at hslot
      obtain ⟨word, hword, _⟩ := hslot
      have hlast := (wordAt_eq_ok_iff.1 hword).1
      omega
  arrays index htype := by
    obtain ⟨slot, value, hslot, hread, _⟩ := getElem?_readValues h htype
    exact holdsArray_of_readSlot hslot hread

/-- In well-formed data every place of the head leads to a value. -/
theorem exists_readSlot {types : List AbiType} {data : List UInt8} (h : WellFormed types data)
    {index : Nat} {type : AbiType} (htype : types[index]? = some type) :
    ∃ slot value, slotAt (32 * types.length) data (32 * index) type = .ok slot ∧
      readSlot data slot = .ok value := by
  have hindex : index < types.length := (List.getElem?_eq_some_iff.1 htype).1
  have hposition : 32 * index + 32 ≤ data.length := by
    have hhead := h.head
    omega
  cases type with
  | uint256 =>
    obtain ⟨word, hword⟩ := exists_wordAt hposition
    exact ⟨.number word, _, slotAt_uint256_eq_ok_iff.2 ⟨word, hword, rfl⟩, rfl⟩
  | addressArray =>
    have harray := h.arrays index htype
    obtain ⟨as, has⟩ := exists_readArray harray
    refine ⟨_, .tuple (as.map fun a ↦ .text a.toHex), slotAt_addressArray_eq_ok_iff.2
      ⟨hposition, harray.behind_head, harray.inside, rfl⟩, ?_⟩
    simp only [readSlot, has]
    rfl

/-- Well-formed data is read to its end. -/
theorem exists_readValues {types : List AbiType} {data : List UInt8} (h : WellFormed types data) :
    ∃ values, readValues types data = .ok values := by
  have hentries (entry : AbiType × Nat) (hentry : entry ∈ types.zipIdx) :
      types[entry.2]? = some entry.1 := List.mem_zipIdx_iff_getElem?.1 hentry
  obtain ⟨slots, hslots⟩ := exists_mapM_eq_ok
    (fun entry ↦ slotAt (32 * types.length) data (32 * entry.2) entry.1) types.zipIdx
    fun entry hentry ↦ by
      obtain ⟨slot, _, hslot, _⟩ := exists_readSlot h (hentries entry hentry)
      exact ⟨slot, hslot⟩
  obtain ⟨values, hvalues⟩ := exists_mapM_eq_ok (readSlot data) slots
    fun slot hslot ↦ by
      obtain ⟨index, hindex⟩ := List.mem_iff_getElem?.1 hslot
      obtain ⟨entry, hentry, hread⟩ := exists_getElem?_of_mapM_eq_ok hslots hindex
      obtain ⟨slot', value, hslot', hvalue⟩ :=
        exists_readSlot h (hentries entry (List.mem_of_getElem? hentry))
      rw [hread, Except.ok.injEq] at hslot'
      exact ⟨value, hslot' ▸ hvalue⟩
  exact ⟨values, by rw [readValues_eq_bind, bind_eq_ok_iff]; exact ⟨slots, hslots, hvalues⟩⟩

/-- Wrapping the plain values of the data never fails, and each type gets its own value. -/
theorem exists_wrap_of_readValues {types : List AbiType} {data : List UInt8}
    {values : List Value} (h : readValues types data = .ok values) :
    ∃ wrapped, ((types.zip values).mapM fun (type, value) ↦ TypedValue.wrap type value) =
      .ok wrapped ∧ HoldsValues types data wrapped := by
  have hwrap (index : Nat) (type : AbiType) (value : Value) (htype : types[index]? = some type)
      (hvalue : values[index]? = some value) :
      ∃ w, TypedValue.wrap type value = .ok w ∧ IsValueAt data (32 * index) type w := by
    obtain ⟨slot, value', hslot, hread, hvalue'⟩ := getElem?_readValues h htype
    rw [hvalue, Option.some.injEq] at hvalue'
    exact wrap_of_readSlot hslot (hvalue' ▸ hread)
  obtain ⟨wrapped, hwrapped⟩ := exists_mapM_eq_ok
    (fun (type, value) ↦ TypedValue.wrap type value) (types.zip values) fun pair hpair ↦ by
      obtain ⟨index, hindex⟩ := List.mem_iff_getElem?.1 hpair
      obtain ⟨htype, hvalue⟩ := List.getElem?_zip_eq_some.1 hindex
      obtain ⟨w, hw, _⟩ := hwrap index pair.1 pair.2 htype hvalue
      exact ⟨w, hw⟩
  refine ⟨wrapped, hwrapped, ?_, ?_⟩
  · rw [length_of_mapM_eq_ok hwrapped, List.length_zip, length_readValues h, Nat.min_self]
  · intro index type htype
    obtain ⟨_, value, _, _, hvalue⟩ := getElem?_readValues h htype
    have hpair : (types.zip values)[index]? = some (type, value) :=
      List.getElem?_zip_eq_some.2 ⟨htype, hvalue⟩
    obtain ⟨w, hget, hw⟩ := getElem?_of_mapM_eq_ok hwrapped hpair
    obtain ⟨w', hw', his⟩ := hwrap index type value htype hvalue
    obtain rfl : w' = w := Except.ok.inj (hw'.symm.trans hw)
    exact ⟨w', hget, his⟩

/-- Decoding either finds the plain values and wraps them all, or fails as reading them does. -/
theorem decode_eq_of_readValues (types : List AbiType) {data : List UInt8} (hdata : data ≠ []) :
    (∃ values, decode types data = .ok values ∧ WellFormed types data ∧
      HoldsValues types data values) ∨
    (∃ e, decode types data = .error (.decoding e) ∧ ¬ WellFormed types data) := by
  rw [decode_of_ne_nil types hdata]
  cases hread : readValues types data with
  | ok values =>
    obtain ⟨wrapped, hwrapped, hvalues⟩ := exists_wrap_of_readValues hread
    exact .inl ⟨wrapped, hwrapped, wellFormed_of_readValues hread, hvalues⟩
  | error e =>
    refine .inr ⟨e, rfl, ?_⟩
    intro h
    obtain ⟨values, hvalues⟩ := exists_readValues h
    rw [hvalues] at hread
    cases hread

theorem map_type_of_decode {types : List AbiType} {data : List UInt8} {values : List TypedValue}
    (h : decode types data = .ok values) (hdata : data ≠ []) :
    values.map TypedValue.type = types := by
  rcases decode_eq_of_readValues types hdata with ⟨_, hvalues, _, hholds⟩ | ⟨e, herror, _⟩
  · rw [← Except.ok.inj (hvalues.symm.trans h)]
    exact hholds.map_type
  · rw [herror] at h
    cases h

/-- Decoding succeeds exactly on the well-formed layouts and then gives the values at their places;
empty data has no values. -/
theorem decodeValues_wellFormed (types : List AbiType) :
    decodeValues (types.map .abiType) [] = .ok [] ∧
    ∀ data, data ≠ [] →
      ((∃ values, decodeValues (types.map .abiType) data = .ok values) ↔ WellFormed types data) ∧
      ∀ values, decodeValues (types.map .abiType) data = .ok values →
        HoldsValues types data values := by
  refine ⟨decodeValues_map_abiType types [], ?_⟩
  intro data hdata
  rw [decodeValues_map_abiType]
  rcases decode_eq_of_readValues types hdata with
    ⟨values, hvalues, hwell, hholds⟩ | ⟨e, herror, hbad⟩
  · refine ⟨iff_of_true ⟨values, hvalues⟩ hwell, ?_⟩
    intro values' hvalues'
    have hsame : values = values' := Except.ok.inj (hvalues.symm.trans hvalues')
    exact hsame ▸ hholds
  · have hnone (values : List TypedValue) : decode types data ≠ .ok values := by
      rw [herror]
      simp
    refine ⟨iff_of_false ?_ hbad, ?_⟩
    · rintro ⟨values, hvalues⟩
      exact hnone values hvalues
    · intro values hvalues
      exact absurd hvalues (hnone values)

/-- Two slots that point to one array, which does not begin at a whole word, and the largest number
between them. -/
def sharedArray : List UInt8 :=
  wordBytes 97 ++ wordBytes (2 ^ 256 - 1) ++ wordBytes 97 ++ [0xff] ++
    wordBytes 1 ++ List.replicate 12 0 ++ List.replicate 20 0x11

/-- Offsets may be shared, and need not be whole words: such data is well-formed and decodes to
what it holds. -/
theorem decodeValues_sharedArray :
    sharedArray ≠ [] ∧
    (∃ values, decodeValues ([.addressArray, .uint256, .addressArray].map .abiType) sharedArray =
      .ok values) ∧
    ∀ values, decodeValues ([.addressArray, .uint256, .addressArray].map .abiType) sharedArray =
        .ok values →
      HoldsValues [.addressArray, .uint256, .addressArray] sharedArray values := by
  have hne : sharedArray ≠ [] := by decide +kernel
  obtain ⟨hiff, hvalues⟩ :=
    (decodeValues_wellFormed [.addressArray, .uint256, .addressArray]).2 sharedArray hne
  exact ⟨hne, hiff.2 (by decide +kernel), hvalues⟩

end ValidatorReader.Abi
