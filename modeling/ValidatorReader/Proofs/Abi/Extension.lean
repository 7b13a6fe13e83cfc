import ValidatorReader.Proofs.Abi.Layout

/-!
# Data behind the arrays

The decoder looks only at the words of the head and at the arrays that these point to. Bytes that
follow well-formed data change none of them, so that longer data decodes to the same values.
-/

namespace ValidatorReader.Abi

variable {part data : List UInt8} {types : List AbiType} {headSize offset position : Nat}

/-- The beginning of data holds the same bytes at the same positions. -/
theorem slice_of_beginning (h : part <+: data) {size : Nat}
    (hsize : position + size ≤ part.length) :
    slice part position size = slice data position size := by
  obtain ⟨rest, rfl⟩ := h
  simp only [slice]
  rw [List.drop_append_of_le_length (by omega),
    List.take_append_of_le_length (by rw [List.length_drop]; omega)]

theorem numberAt_of_beginning (h : part <+: data) (hsize : position + 32 ≤ part.length) :
    numberAt part position = numberAt data position := by
  rw [numberAt, numberAt, slice_of_beginning h hsize]

theorem itemPositions_of_beginning (h : part <+: data) (hsize : offset + 32 ≤ part.length) :
    itemPositions part offset = itemPositions data offset := by
  rw [itemPositions, itemPositions, numberAt_of_beginning h hsize]

theorem HoldsArray.position_add_le (h : HoldsArray part headSize offset)
    (hposition : position ∈ itemPositions part offset) : position + 32 ≤ part.length :=
  (itemPositions_inside_iff h.length_word).2 h.item_words position hposition

/-- An array lies within its own words: what comes behind them does not matter. -/
theorem HoldsArray.of_beginning (h : HoldsArray part headSize offset) (hbegin : part <+: data) :
    HoldsArray data headSize offset := by
  have hlength : part.length ≤ data.length := hbegin.length_le
  have hnumber := numberAt_of_beginning hbegin h.length_word
  have hitems := h.item_words
  refine ⟨h.behind_head, h.inside.trans_le hlength, h.length_word.trans hlength, ?_, ?_⟩
  · rw [← hnumber]
    exact hitems.trans hlength
  · intro position hposition
    rw [← itemPositions_of_beginning hbegin h.length_word] at hposition
    have hinside := h.position_add_le hposition
    rw [← slice_of_beginning hbegin (by omega)]
    exact h.padding position hposition

theorem HoldsArray.itemBytes_eq (h : HoldsArray part headSize offset) (hbegin : part <+: data) :
    itemBytes part offset = itemBytes data offset := by
  rw [itemBytes, itemBytes, ← itemPositions_of_beginning hbegin h.length_word]
  refine List.map_congr_left ?_
  intro position hposition
  have hinside := h.position_add_le hposition
  exact slice_of_beginning hbegin (by omega)

/-! ## Whole data -/

theorem WellFormed.head_word (h : WellFormed types part) {index : Nat} {type : AbiType}
    (htype : types[index]? = some type) : 32 * index + 32 ≤ part.length := by
  have hindex : index < types.length := (List.getElem?_eq_some_iff.1 htype).1
  have hhead := h.head
  omega

/-- Data stays well-formed whatever is appended to it. -/
theorem WellFormed.of_beginning (h : WellFormed types part) (hbegin : part <+: data) :
    WellFormed types data where
  head := h.head.trans hbegin.length_le
  arrays index htype := by
    rw [← numberAt_of_beginning hbegin (h.head_word htype)]
    exact (h.arrays index htype).of_beginning hbegin

/-- The value at a place of the head is the same in longer data. -/
theorem WellFormed.isValueAt_of_beginning (h : WellFormed types part) (hbegin : part <+: data)
    {index : Nat} {type : AbiType} {value : TypedValue} (htype : types[index]? = some type)
    (his : IsValueAt part (32 * index) type value) : IsValueAt data (32 * index) type value := by
  have hnumber := numberAt_of_beginning hbegin (h.head_word htype)
  cases type with
  | uint256 =>
    rw [isValueAt_uint256_iff, ← hnumber]
    exact isValueAt_uint256_iff.1 his
  | addressArray =>
    rw [isValueAt_addressArray_iff, ← hnumber, ← (h.arrays index htype).itemBytes_eq hbegin]
    exact isValueAt_addressArray_iff.1 his

/-- The values of well-formed data stay the same whatever is appended to it. -/
theorem WellFormed.holdsValues_of_beginning (h : WellFormed types part) (hbegin : part <+: data)
    {values : List TypedValue} (hvalues : HoldsValues types part values) :
    HoldsValues types data values where
  length_eq := hvalues.length_eq
  value_at index type htype := by
    obtain ⟨value, hvalue, his⟩ := hvalues.value_at index type htype
    exact ⟨value, hvalue, h.isValueAt_of_beginning hbegin htype his⟩

/-- A place of the data holds at most one value of a type. -/
theorem IsValueAt.unique {type : AbiType} {value value' : TypedValue}
    (h : IsValueAt data position type value) (h' : IsValueAt data position type value') :
    value = value' := by
  cases type with
  | uint256 =>
    obtain ⟨_, rfl⟩ := isValueAt_uint256_iff.1 h
    obtain ⟨_, rfl⟩ := isValueAt_uint256_iff.1 h'
    rfl
  | addressArray =>
    obtain ⟨as, rfl, has⟩ := isValueAt_addressArray_iff.1 h
    obtain ⟨as', rfl, has'⟩ := isValueAt_addressArray_iff.1 h'
    rw [map_bytes_injective (has.trans has'.symm)]

/-- Data holds no two lists of values for the same types. -/
theorem HoldsValues.unique {values values' : List TypedValue} (h : HoldsValues types data values)
    (h' : HoldsValues types data values') : values = values' := by
  apply List.ext_getElem?
  intro index
  rcases lt_or_ge index types.length with hindex | hindex
  · have htype := List.getElem?_eq_getElem hindex
    obtain ⟨value, hvalue, his⟩ := h.value_at index _ htype
    obtain ⟨value', hvalue', his'⟩ := h'.value_at index _ htype
    rw [hvalue, hvalue', his.unique his']
  · rw [List.getElem?_eq_none (h.length_eq ▸ hindex), List.getElem?_eq_none (h'.length_eq ▸ hindex)]

/-- Bytes behind data that decodes do not change its values. -/
theorem decode_append {values : List TypedValue} (hdata : data ≠ [])
    (h : decode types data = .ok values) (trailing : List UInt8) :
    decode types (data ++ trailing) = .ok values := by
  have hbegin : data <+: data ++ trailing := List.prefix_append data trailing
  rcases decode_eq_of_readValues types hdata with ⟨values', hvalues', hwell, hholds⟩ | ⟨e, he, _⟩
  · obtain rfl : values' = values := Except.ok.inj (hvalues'.symm.trans h)
    have hlonger : data ++ trailing ≠ [] := List.append_ne_nil_of_left_ne_nil hdata trailing
    rcases decode_eq_of_readValues types hlonger with
      ⟨values'', hvalues'', _, hholds''⟩ | ⟨_, _, hbad⟩
    · rw [hvalues'', hholds''.unique (hwell.holdsValues_of_beginning hbegin hholds)]
    -- Only ill-formed data fails to decode, and longer data is as well-formed as its beginning.
    · exact absurd (hwell.of_beginning hbegin) hbad
  · rw [he] at h
    cases h

/-- Trailing bytes are passed over where there are values in front of them. -/
theorem decode_append_of_cons {first : TypedValue} {others : List TypedValue}
    (h : decode types data = .ok (first :: others)) (trailing : List UInt8) :
    decode types (data ++ trailing) = .ok (first :: others) := by
  have hdata : data ≠ [] := by
    rintro rfl
    cases h
  exact decode_append hdata h trailing

end ValidatorReader.Abi
