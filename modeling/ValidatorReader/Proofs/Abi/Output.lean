import ValidatorReader.Proofs.Abi.Extension
import ValidatorReader.Proofs.Abi.RoundTrip

/-!
# The outputs of the two functions

An encoded list of addresses decodes to the list, in whatever form its addresses were written, and a
word decodes to its number.
-/

namespace ValidatorReader.Abi

open Attempt

/-- An item spells one address. -/
theorem rightUnique_isItemAddress : Relator.RightUnique IsItemAddress := by
  intro item a a' h h'
  cases item with
  | text s => exact Except.ok.inj (h.symm.trans h')
  | _ => exact Except.ok.inj (h.symm.trans h')

theorem eq_singleton_of_readsBack {type : AbiType} {item : Value} {values : List TypedValue}
    (h : ReadsBack [type] [item] values) : ∃ value, values = [value] ∧ StandsFor type item value := by
  obtain ⟨value, rfl⟩ := List.length_eq_one_iff.1 h.length_values
  obtain ⟨_, ⟨⟩, hstands⟩ := h.standsFor 0 type item rfl rfl
  exact ⟨value, rfl, hstands⟩

theorem encodeValues_of_addressItems {check : AddressCheck} {items : List Value}
    {as : List Address} (h : items.mapM (addressItem check) = .ok as) :
    encodeValues ([.addressArray].map .abiType) (.list [.list items]) check =
      .ok (encodeArguments [.array as]) := by
  rw [encodeValues_map_abiType_eq_ok_iff]
  refine ⟨_, rfl, ?_⟩
  simp [encode, checkArguments, checkArgument, h]

/-- Every list of addresses has an encoding. -/
theorem exists_encodeValues_addresses (as : List Address) :
    ∃ items encoding, List.Forall₂ IsItemAddress items as ∧
      encodeValues ([.addressArray].map .abiType) (.list [.list items]) = .ok encoding := by
  have hspell : List.Forall₂ IsItemAddress (as.map fun a ↦ .bytes a.bytes) as := by
    rw [List.forall₂_map_left_iff, List.forall₂_same]
    intro a _
    simp [IsItemAddress, Address.ofRaw, Address.ofByteList, Except.mapError]
  have hitems : (as.map fun a ↦ Value.bytes a.bytes).mapM (addressItem .anyCase) = .ok as := by
    rw [mapM_eq_ok_iff, List.forall₂_map_left_iff, List.forall₂_same]
    intro a _
    exact addressItem_eq_ok_iff.2 ⟨rfl, rfl⟩
  exact ⟨_, encodeArguments [.array as], hspell, encodeValues_of_addressItems hitems⟩

/-- An array whose length fits into its word is read back from its encoding. -/
theorem decode_array {as : List Address} (h : as.length < uint256Bound) :
    decode [.addressArray] (encodeArguments [.array as]) = .ok [.addresses as] := by
  have hoffset : tailOffset [] (.array as) [] = 32 := rfl
  have hhead : numberAt (encodeArguments [.array as]) (32 * 0) = 32 :=
    numberAt_head [] (.array as) [] (by rw [Argument.headNumber, hoffset]; decide)
  obtain ⟨hholds, hitems⟩ := holdsArray_of_drop_eq (drop_tailOffset [] (.array as) []) h le_rfl
  rw [hoffset, List.nil_append] at hholds hitems
  have hlength : (encodeArguments [.array as]).length = 64 + 32 * as.length := by
    simp [length_encodeArguments, tailBytes, Argument.tail]
    omega
  have hwell : WellFormed [.addressArray] (encodeArguments [.array as]) := by
    refine ⟨by rw [hlength, List.length_singleton]; omega, ?_⟩
    intro index htype
    obtain rfl : index = 0 := by
      have hindex := (List.getElem?_eq_some_iff.1 htype).1
      simpa using hindex
    rw [hhead]
    exact hholds
  have hdata : encodeArguments [.array as] ≠ [] := by
    rw [← List.length_pos_iff, hlength]
    omega
  rcases decode_eq_of_readValues [.addressArray] hdata with
    ⟨values, hvalues, _, hread⟩ | ⟨_, _, hbad⟩
  · obtain ⟨value, rfl⟩ := List.length_eq_one_iff.1 hread.length_eq
    obtain ⟨_, ⟨⟩, his⟩ := hread.value_at 0 .addressArray rfl
    obtain ⟨as', rfl, hbytes⟩ := isValueAt_addressArray_iff.1 his
    rw [hhead, hitems] at hbytes
    rw [hvalues, map_bytes_injective hbytes]
  · exact absurd hwell hbad

/-- Addresses are read back from their encoding, in whatever form they were written. -/
theorem decode_encoded_addresses {items : List Value} {as : List Address} {data : List UInt8}
    (hspell : List.Forall₂ IsItemAddress items as)
    (h : encodeValues ([.addressArray].map .abiType) (.list [.list items]) = .ok data)
    (hsize : data.length < 2 ^ 256) : decode [.addressArray] data = .ok [.addresses as] := by
  obtain ⟨_, ⟨⟩, hencode⟩ := encodeValues_map_abiType_eq_ok_iff.1 h
  obtain ⟨values, hvalues, hreads⟩ := decode_encode hencode hsize
  obtain ⟨value, rfl, hstands⟩ := eq_singleton_of_readsBack hreads
  -- An address has many spellings, but a spelling has one address: the items of the encoding fix it.
  cases hstands with
  | list hspell' => rw [hvalues, rightUnique_isItemAddress.forall₂ hspell hspell']

theorem decode_word {n : Nat} (h : n < 2 ^ 256) :
    ∃ hn, decode [.uint256] (Bytes.ofNat 32 n) = .ok [.uint256 n hn] := by
  have hbound : n < uint256Bound := h
  have hencode : encode [.uint256] [.int n] = .ok (Bytes.ofNat 32 n) := by
    have hrange : (0 : Int) ≤ n ∧ (n : Int) < uint256Bound :=
      ⟨Int.natCast_nonneg n, Int.ofNat_lt.2 hbound⟩
    simp [encode, checkArguments, checkArgument, encodeArguments, headBytes, Argument.tail,
      wordBytes, hrange]
  have hsize : (Bytes.ofNat 32 n).length < 2 ^ 256 := by
    rw [Bytes.length_ofNat]
    decide
  obtain ⟨values, hvalues, hreads⟩ := decode_encode hencode hsize
  obtain ⟨value, rfl, hstands⟩ := eq_singleton_of_readsBack hreads
  cases hstands with
  | number hn => exact ⟨hn, hvalues⟩

end ValidatorReader.Abi
