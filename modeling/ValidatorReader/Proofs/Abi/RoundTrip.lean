import ValidatorReader.Contract.Signature
import ValidatorReader.Proofs.Abi.Canonical

/-!
# Decoding undoes encoding

Whatever values are accepted for the given types, in whatever form their addresses are written, the
encoding decodes to one value for each type that stands for the value given. The same holds for the
arguments in the payload of a call.
-/

namespace ValidatorReader.Abi

open Attempt

/-- The address that an item of an array stands for: a text is read as hexadecimal, and anything
else must be the bytes of an address. -/
def IsItemAddress : Value → Address → Prop
  | .text s, a => Address.ofText s = .ok a
  | item, a => Address.ofRaw item = .ok a

/-- The decoded value that a given value of a type stands for: the same number, or the addresses of
the items in order. -/
inductive StandsFor : AbiType → Value → TypedValue → Prop
  | number {n : Nat} (h : n < uint256Bound) : StandsFor .uint256 (.int n) (.uint256 n h)
  | list {items : List Value} {as : List Address} (h : List.Forall₂ IsItemAddress items as) :
    StandsFor .addressArray (.list items) (.addresses as)
  | tuple {items : List Value} {as : List Address} (h : List.Forall₂ IsItemAddress items as) :
    StandsFor .addressArray (.tuple items) (.addresses as)

/-- Decoded values that stand for the given ones, one for each type and in order. -/
structure ReadsBack (types : List AbiType) (items : List Value) (values : List TypedValue) :
    Prop where
  length_items : items.length = types.length
  length_values : values.length = types.length
  standsFor : ∀ (index : Nat) (type : AbiType) (item : Value), types[index]? = some type →
    items[index]? = some item → ∃ value, values[index]? = some value ∧ StandsFor type item value

/-! ## Accepted arguments -/

variable {check : AddressCheck}

theorem ofText_of_addressBytes {s : String} {a : Address}
    (h : addressBytes (.text s) = a.bytes) : Address.ofText s = .ok a := by
  have hsize : (addressBytes (.text s)).length = 20 := by rw [h, a.length_bytes]
  simp only [addressBytes] at h hsize
  split at h
  case isTrue hdigits =>
    rw [if_pos hdigits] at hsize
    rw [List.all_eq_true] at hdigits
    cases hbytes : Bytes.ofHexChars? (Address.digitsPart s.toList) with
    | none =>
      rw [hbytes] at hsize
      cases hsize
    | some bytes =>
      rw [hbytes, Option.getD_some] at h hsize
      have hlength : (Address.digitsPart s.toList).length = 40 := by
        rw [Bytes.length_eq_of_ofHexChars? hdigits hbytes, hsize]
      have hnonempty : (Address.digitsPart s.toList).isEmpty = false := by
        rw [List.isEmpty_eq_false_iff_exists_mem]
        exact List.exists_mem_of_length_pos (by omega)
      simp only [Address.ofText, hnonempty, hlength, Nat.lt_irrefl, if_false, Nat.sub_self,
        List.replicate_zero, List.nil_append, hbytes, h, Address.ofBytes_bytes, Bool.false_eq_true]
  case isFalse hdigits =>
    rw [if_neg hdigits] at hsize
    cases hsize

/-- Checks only turn items down: what is taken stands for its address under any of them. -/
theorem isItemAddress_of_addressItem {item : Value} {a : Address}
    (h : addressItem check item = .ok a) : IsItemAddress item a := by
  have hbytes : addressBytes item = a.bytes := (addressItem_eq_ok_iff.1 h).1
  have hnone : a.bytes ≠ [] := by
    rw [← List.length_pos_iff, a.length_bytes]
    decide
  cases item with
  | text s => exact ofText_of_addressBytes hbytes
  | bytes b =>
    obtain rfl : b = a.bytes := hbytes
    simp [IsItemAddress, Address.ofRaw, Address.ofByteList, Except.mapError]
  | byteArray b =>
    obtain rfl : b = a.bytes := hbytes
    simp [IsItemAddress, Address.ofRaw, Address.ofByteList, Except.mapError]
  | _ => exact absurd hbytes.symm hnone

/-- What is taken for a number is one, and below the bound. -/
theorem checkArgument_uint256_eq_ok {value : Value} {arg : Argument}
    (h : checkArgument check .uint256 value = .ok arg) :
    ∃ n : Nat, n < uint256Bound ∧ value = .int n ∧ arg = .word n := by
  cases value with
  | int n =>
    simp only [checkArgument] at h
    split at h
    · rename_i hrange
      obtain ⟨m, rfl⟩ := Int.eq_ofNat_of_zero_le hrange.1
      simp only [Except.ok.injEq] at h
      exact ⟨m, by exact_mod_cast hrange.2, rfl, by simpa using h.symm⟩
    · simp at h
  | _ => simp [checkArgument] at h

/-- What is taken for an array is a list or a tuple of items that stand for addresses. -/
theorem checkArgument_addressArray_eq_ok {value : Value} {arg : Argument}
    (h : checkArgument check .addressArray value = .ok arg) :
    ∃ items as, (value = .list items ∨ value = .tuple items) ∧
      List.Forall₂ IsItemAddress items as ∧ arg = .array as := by
  have hitems {items : List Value} (hmap : .array <$> items.mapM (addressItem check) = .ok arg) :
      ∃ as, List.Forall₂ IsItemAddress items as ∧ arg = .array as := by
    obtain ⟨as, has, rfl⟩ := map_eq_ok_iff.1 hmap
    exact ⟨as, (mapM_eq_ok_iff.1 has).imp fun _ _ ↦ isItemAddress_of_addressItem, rfl⟩
  cases value with
  | list items =>
    obtain ⟨as, has, harg⟩ := hitems h
    exact ⟨items, as, .inl rfl, has, harg⟩
  | tuple items =>
    obtain ⟨as, has, harg⟩ := hitems h
    exact ⟨items, as, .inr rfl, has, harg⟩
  | _ => simp [checkArgument] at h

/-- Values that are accepted for types, each checked against its own, and the arguments that are
written for them. -/
structure Accepted (check : AddressCheck) (types : List AbiType) (items : List Value)
    (args : List Argument) : Prop where
  length_items : items.length = types.length
  length_args : args.length = types.length
  checked : ∀ (index : Nat) (type : AbiType) (item : Value), types[index]? = some type →
    items[index]? = some item →
    ∃ arg, args[index]? = some arg ∧ checkArgument check type item = .ok arg

/-- Arguments that are taken are so one by one, each for its type. -/
theorem accepted_of_checkArguments {types : List AbiType} {items : List Value}
    {args : List Argument} (h : checkArguments check types items = .ok args) :
    Accepted check types items args := by
  simp only [checkArguments] at h
  split at h
  · simp at h
  · rename_i hcount
    rw [ne_eq, not_not] at hcount
    refine ⟨hcount, ?_, ?_⟩
    · rw [length_of_mapM_eq_ok h, List.length_zip, hcount, Nat.min_self]
    · intro index type item htype hitem
      have hpair : (types.zip items)[index]? = some (type, item) :=
        List.getElem?_zip_eq_some.2 ⟨htype, hitem⟩
      exact getElem?_of_mapM_eq_ok h hpair

theorem exists_accepted_of_encode {types : List AbiType} {items : List Value} {data : List UInt8}
    (h : encode types items check = .ok data) :
    ∃ args, Accepted check types items args ∧ data = encodeArguments args := by
  obtain ⟨args, hargs, hdata⟩ := map_eq_ok_iff.1 h
  exact ⟨args, accepted_of_checkArguments hargs, hdata.symm⟩

/-- Only a value of an array type is written as an array. -/
theorem Accepted.type_of_array {types : List AbiType} {items : List Value} {args : List Argument}
    (h : Accepted check types items args) {index : Nat} {as : List Address}
    (harray : args[index]? = some (.array as)) : types[index]? = some .addressArray := by
  have hindex : index < types.length := h.length_args ▸ (List.getElem?_eq_some_iff.1 harray).1
  have htype := List.getElem?_eq_getElem hindex
  obtain ⟨arg, harg, hcheck⟩ := h.checked index _ _ htype
    (List.getElem?_eq_getElem (h.length_items ▸ hindex))
  obtain rfl : arg = .array as := Option.some.inj (harg.symm.trans harray)
  rw [htype]
  cases hform : types[index] with
  | addressArray => rfl
  | uint256 =>
    rw [hform] at hcheck
    obtain ⟨_, _, _, hword⟩ := checkArgument_uint256_eq_ok hcheck
    cases hword

/-! ## Reading an encoding -/

theorem exists_split_of_getElem? {args : List Argument} {index : Nat} {arg : Argument}
    (h : args[index]? = some arg) :
    ∃ before after, args = before ++ arg :: after ∧ before.length = index := by
  obtain ⟨hindex, rfl⟩ := List.getElem?_eq_some_iff.1 h
  refine ⟨args.take index, args.drop (index + 1), ?_, List.length_take_of_le (by omega)⟩
  rw [← List.drop_eq_getElem_cons hindex, List.take_append_drop]

variable {args : List Argument} {index : Nat}

/-- The head word of a number in an encoding is the number. -/
theorem numberAt_of_word {n : Nat} (h : args[index]? = some (.word n)) (hn : n < uint256Bound) :
    numberAt (encodeArguments args) (32 * index) = n := by
  obtain ⟨before, after, rfl, rfl⟩ := exists_split_of_getElem? h
  exact numberAt_head before (.word n) after hn

/-- The head word of an array in an encoding points to the array. -/
theorem holdsArray_of_array {as : List Address} (h : args[index]? = some (.array as))
    (hsize : (encodeArguments args).length < 2 ^ 256) :
    HoldsArray (encodeArguments args) (32 * args.length)
        (numberAt (encodeArguments args) (32 * index)) ∧
      itemBytes (encodeArguments args) (numberAt (encodeArguments args) (32 * index)) =
        as.map Address.bytes := by
  obtain ⟨before, after, rfl, rfl⟩ := exists_split_of_getElem? h
  have hlength := length_encodeArguments_split before (.array as) after
  have htail : (Argument.array as).tail.length = 32 + 32 * as.length := by
    simp [Argument.tail, Nat.mul_comm]
  have hbound : uint256Bound = 2 ^ 256 := rfl
  have hoffset : tailOffset before (.array as) after < uint256Bound := by omega
  have hcount : as.length < uint256Bound := by omega
  rw [numberAt_head before (.array as) after hoffset]
  exact holdsArray_of_drop_eq (drop_tailOffset before (.array as) after) hcount
    (Nat.le_add_right _ _)

/-- What an encoding holds at the place of an accepted value stands for that value. -/
theorem standsFor_of_isValueAt {type : AbiType} {item : Value} {arg : Argument}
    {value : TypedValue} (hcheck : checkArgument check type item = .ok arg)
    (harg : args[index]? = some arg) (hsize : (encodeArguments args).length < 2 ^ 256)
    (his : IsValueAt (encodeArguments args) (32 * index) type value) :
    StandsFor type item value := by
  cases type with
  | uint256 =>
    obtain ⟨n, hn, rfl, rfl⟩ := checkArgument_uint256_eq_ok hcheck
    obtain ⟨hbound, rfl⟩ := isValueAt_uint256_iff.1 his
    obtain rfl : numberAt (encodeArguments args) (32 * index) = n := numberAt_of_word harg hn
    exact .number hbound
  | addressArray =>
    obtain ⟨items, as, hform, has, rfl⟩ := checkArgument_addressArray_eq_ok hcheck
    obtain ⟨as', rfl, hbytes⟩ := isValueAt_addressArray_iff.1 his
    rw [(holdsArray_of_array harg hsize).2] at hbytes
    obtain rfl : as' = as := map_bytes_injective hbytes
    rcases hform with rfl | rfl
    · exact .list has
    · exact .tuple has

/-- An encoding is well-formed, and values that it holds are those that were encoded. -/
theorem wellFormed_of_encode {types : List AbiType} {items : List Value} {data : List UInt8}
    (h : encode types items check = .ok data) (hsize : data.length < 2 ^ 256) :
    WellFormed types data ∧ ∀ values, HoldsValues types data values →
      ReadsBack types items values := by
  obtain ⟨args, haccepted, rfl⟩ := exists_accepted_of_encode h
  constructor
  · constructor
    · rw [length_encodeArguments, haccepted.length_args]
      exact Nat.le_add_right _ _
    · intro index htype
      have hindex : index < items.length :=
        haccepted.length_items ▸ (List.getElem?_eq_some_iff.1 htype).1
      obtain ⟨arg, harg, hcheck⟩ :=
        haccepted.checked index _ _ htype (List.getElem?_eq_getElem hindex)
      obtain ⟨_, as, _, _, rfl⟩ := checkArgument_addressArray_eq_ok hcheck
      rw [← haccepted.length_args]
      exact (holdsArray_of_array harg hsize).1
  · intro values hvalues
    refine ⟨haccepted.length_items, hvalues.length_eq, ?_⟩
    intro index type item htype hitem
    obtain ⟨arg, harg, hcheck⟩ := haccepted.checked index type item htype hitem
    obtain ⟨value, hvalue, his⟩ := hvalues.value_at index type htype
    exact ⟨value, hvalue, standsFor_of_isValueAt hcheck harg hsize his⟩

/-- Decoding reads back what was encoded, if all offsets fit into a word. -/
theorem decode_encode {types : List AbiType} {items : List Value} {data : List UInt8}
    (h : encode types items check = .ok data) (hsize : data.length < 2 ^ 256) :
    ∃ values, decode types data = .ok values ∧ ReadsBack types items values := by
  obtain ⟨hwell, hreads⟩ := wellFormed_of_encode h hsize
  by_cases hdata : data = []
  · subst hdata
    have hhead : 32 * types.length ≤ 0 := hwell.head
    have htypes : types = [] := List.eq_nil_of_length_eq_zero (by omega)
    subst htypes
    have hnone : HoldsValues [] [] [] := ⟨rfl, by simp⟩
    exact ⟨[], rfl, hreads [] hnone⟩
  · rcases decode_eq_of_readValues types hdata with
      ⟨values, hvalues, _, hholds⟩ | ⟨_, _, hbad⟩
    · exact ⟨values, hvalues, hreads values hholds⟩
    · exact absurd hwell hbad

/-- Encoding the items of a value of any form is encoding the list of them. -/
theorem encodeValues_map_abiType_eq_ok_iff {types : List AbiType} {values : Value}
    {data : List UInt8} :
    encodeValues (types.map .abiType) values check = .ok data ↔
      ∃ items, values.items? = some items ∧ encode types items check = .ok data := by
  cases hitems : values.items? with
  | none => simp [encodeValues, hitems, Except.mapError, bind, Except.bind]
  | some items => simp [encodeValues_map_abiType types hitems]

/-- The payload of a call is a selector and an encoding of the arguments behind it. -/
theorem encodeCall_eq_ok {f : Signature} {args : Value} {payload : List UInt8}
    (h : f.encodeCall args check = .ok payload) :
    ∃ items encoded, args.items? = some items ∧
      encode f.argumentTypes items check = .ok encoded ∧ payload = f.selector ++ encoded := by
  simp only [Signature.encodeCall] at h
  split at h
  · simp at h
  · rename_i items hitems
    split at h
    · simp at h
    · simp only [bind_eq_ok_iff, mapError_eq_ok_iff, pure_eq_ok_iff] at h
      obtain ⟨encoded, hencoded, rfl⟩ := h
      exact ⟨items, encoded, hitems, hencoded, rfl⟩

theorem length_selector (f : Signature) : f.selector.length = 4 := by
  simp [Signature.selector, Keccak.length_digest]

/-- Encoded values read back as the values that they stand for, and so do the arguments behind the
selector in the payload of a call. This holds whatever the encoder makes of addresses in mixed case. -/
theorem decodeValues_encodeValues (check : AddressCheck) :
    (∀ (types : List AbiType) (values : Value) (data : List UInt8),
      encodeValues (types.map .abiType) values check = .ok data → data.length < 2 ^ 256 →
      ∃ items decoded, values.items? = some items ∧
        decodeValues (types.map .abiType) data = .ok decoded ∧ ReadsBack types items decoded) ∧
    (∀ (f : Signature) (args : Value) (payload : List UInt8),
      f.encodeCall args check = .ok payload → (payload.drop 4).length < 2 ^ 256 →
      ∃ items decoded, args.items? = some items ∧ payload.take 4 = f.selector ∧
        decodeValues (f.argumentTypes.map .abiType) (payload.drop 4) = .ok decoded ∧
        ReadsBack f.argumentTypes items decoded) := by
  constructor
  · intro types values data h hsize
    rw [decodeValues_map_abiType]
    obtain ⟨items, hitems, hencode⟩ := encodeValues_map_abiType_eq_ok_iff.1 h
    obtain ⟨decoded, hdecoded, hreads⟩ := decode_encode hencode hsize
    exact ⟨items, decoded, hitems, hdecoded, hreads⟩
  · intro f args payload h hsize
    rw [decodeValues_map_abiType]
    obtain ⟨items, encoded, hitems, hencode, rfl⟩ := encodeCall_eq_ok h
    have hselector : f.selector.length = 4 := length_selector f
    have htake : (f.selector ++ encoded).take 4 = f.selector := List.take_left' hselector
    have hdrop : (f.selector ++ encoded).drop 4 = encoded := List.drop_left' hselector
    rw [hdrop] at hsize ⊢
    obtain ⟨decoded, hdecoded, hreads⟩ := decode_encode hencode hsize
    exact ⟨items, decoded, hitems, htake, hdecoded, hreads⟩

/-- A number between arrays of which one is empty and one names an address twice, in other forms. -/
def mixedArguments : List Value :=
  [.list [.text "0X00000000000000000000000000000000000000AB", .bytes (List.replicate 20 7),
      .text "00000000000000000000000000000000000000ab"],
    .int 5, .tuple [], .tuple [.byteArray (List.replicate 20 7)]]

def mixedFunction : Signature where
  name := "update"
  argumentTypes := [.addressArray, .uint256, .addressArray, .addressArray]

/-- An encoder that compares checksums takes the mixed arguments, and they read back. -/
theorem decodeValues_mixedArguments :
    ∃ data payload,
      encodeValues (mixedFunction.argumentTypes.map .abiType) (.list mixedArguments)
        (.checksum Keccak.digest) = .ok data ∧
      data.length < 2 ^ 256 ∧
      mixedFunction.encodeCall (.list mixedArguments) (.checksum Keccak.digest) = .ok payload ∧
      (payload.drop 4).length < 2 ^ 256 ∧
      (∃ items decoded, (Value.list mixedArguments).items? = some items ∧
        decodeValues (mixedFunction.argumentTypes.map .abiType) data = .ok decoded ∧
        ReadsBack mixedFunction.argumentTypes items decoded) ∧
      ∃ items decoded, (Value.list mixedArguments).items? = some items ∧
        payload.take 4 = mixedFunction.selector ∧
        decodeValues (mixedFunction.argumentTypes.map .abiType) (payload.drop 4) = .ok decoded ∧
        ReadsBack mixedFunction.argumentTypes items decoded := by
  obtain ⟨data, hdata, hsize⟩ : ∃ data,
      encodeValues (mixedFunction.argumentTypes.map .abiType) (.list mixedArguments)
        (.checksum Keccak.digest) = .ok data ∧
      data.length < 2 ^ 256 := ⟨_, rfl, by decide +kernel⟩
  obtain ⟨payload, hpayload, hrest⟩ : ∃ payload,
      mixedFunction.encodeCall (.list mixedArguments) (.checksum Keccak.digest) = .ok payload ∧
      (payload.drop 4).length < 2 ^ 256 := ⟨_, rfl, by decide +kernel⟩
  obtain ⟨hvalues, hcalls⟩ := decodeValues_encodeValues (.checksum Keccak.digest)
  exact ⟨data, payload, hdata, hsize, hpayload, hrest, hvalues _ _ _ hdata hsize,
    hcalls _ _ _ hpayload hrest⟩

end ValidatorReader.Abi
