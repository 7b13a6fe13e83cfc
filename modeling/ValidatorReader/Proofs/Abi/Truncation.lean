import ValidatorReader.Proofs.Abi.Extension
import ValidatorReader.Proofs.Abi.RoundTrip
import ValidatorReader.Proofs.Contract.Checks

/-!
# Cut-off return data

Every byte of an encoding is asked for by the decoder. A proper beginning of an encoding therefore
decodes to nothing at all if it is empty and fails to decode otherwise, and neither of the two
functions of the contract gives a reading of it.
-/

namespace ValidatorReader.Abi

/-- Either no argument has a tail, or the last tail is that of an array. -/
theorem tailBytes_eq_nil_or_last_array (args : List Argument) :
    tailBytes args = [] ∨
      ∃ before as after, args = before ++ .array as :: after ∧ tailBytes after = [] := by
  induction args with
  | nil => exact .inl rfl
  | cons arg args ih =>
    rcases ih with hnone | ⟨before, as, after, rfl, hafter⟩
    · cases arg with
      | word n => exact .inl hnone
      | array as => exact .inr ⟨[], as, args, rfl, hnone⟩
    · exact .inr ⟨arg :: before, as, after, rfl, hafter⟩

/-- The last array of an encoding ends with it, so that only the whole encoding is well-formed. -/
theorem length_le_of_wellFormed_beginning {check : AddressCheck} {args : List Argument}
    {types : List AbiType} {items : List Value} {part : List UInt8}
    (hbegin : part <+: encodeArguments args)
    (hsize : (encodeArguments args).length < 2 ^ 256) (haccepted : Accepted check types items args)
    (hwell : WellFormed types part) : (encodeArguments args).length ≤ part.length := by
  have hbound : uint256Bound = 2 ^ 256 := rfl
  have hhead := hwell.head
  have hlength := haccepted.length_args
  rcases tailBytes_eq_nil_or_last_array args with hnone | ⟨before, as, after, rfl, hafter⟩
  · rw [length_encodeArguments, hnone, List.length_nil, Nat.add_zero, hlength]
    exact hhead
  · have htotal := length_encodeArguments_split before (.array as) after
    simp only [hafter, List.length_nil, Nat.add_zero, Argument.tail, List.length_append,
      length_wordBytes, length_flatMap_addressWord] at htotal
    have harray : (before ++ .array as :: after)[before.length]? = some (.array as) := by simp
    have hslot := hwell.arrays before.length (haccepted.type_of_array harray)
    have hoffset : numberAt part (32 * before.length) = tailOffset before (.array as) after := by
      rw [numberAt_of_beginning hbegin (by simp at hlength; omega)]
      exact numberAt_head before (.array as) after (by simp only [Argument.headNumber]; omega)
    rw [hoffset] at hslot
    have hcount : numberAt part (tailOffset before (.array as) after) = as.length := by
      rw [numberAt_of_beginning hbegin hslot.length_word]
      exact numberAt_of_drop_eq (drop_tailOffset before (.array as) after) (by omega)
    have hitems := hslot.item_words
    rw [hcount] at hitems
    omega

/-- A proper beginning of an encoding decodes to nothing if it is empty and to an error if not. -/
theorem decode_cutOff {types : List AbiType} {items : List Value} {data part : List UInt8}
    (h : encode types items = .ok data) (hsize : data.length < 2 ^ 256) (hbegin : part <+: data)
    (hproper : part ≠ data) :
    (part = [] → decode types part = .ok []) ∧
      (part ≠ [] → ∃ e, decode types part = .error (.decoding e)) := by
  constructor
  · intro hempty
    rw [hempty, decode_nil]
  · intro hpart
    rcases decode_eq_of_readValues types hpart with ⟨_, _, hwell, _⟩ | ⟨e, he, _⟩
    · obtain ⟨args, haccepted, rfl⟩ := exists_accepted_of_encode h
      have hle : (encodeArguments args).length ≤ part.length :=
        length_le_of_wellFormed_beginning hbegin hsize haccepted hwell
      exact absurd (hbegin.eq_of_length_le hle) hproper
    · exact ⟨e, he⟩

theorem exists_rule_of_registered {f : Signature}
    (h : f ∈ Registry.validatorContract.signatures) :
    ∃ rule, ReadingRule.forName? f.name = some rule := by
  obtain ⟨rule, known, _⟩ := ReadingRule.exists_of_registered h
  exact ⟨rule, known⟩

/-- Cut-off data never gives a value: it holds nothing or does not decode, and the functions of the
contract report an empty output or a failed call for it. -/
theorem decodeValues_cutOff :
    (∀ (types : List AbiType) (values : Value) (data part : List UInt8),
      encodeValues (types.map .abiType) values = .ok data → data.length < 2 ^ 256 →
      part <+: data → part ≠ data →
      (part = [] → decodeValues (types.map .abiType) part = .ok []) ∧
      (part ≠ [] → ∃ e, decodeValues (types.map .abiType) part = .error (.decoding e))) ∧
    ∀ f ∈ Registry.validatorContract.signatures, ∀ (values : Value) (data : List UInt8),
      encodeValues (f.returnTypes.map .abiType) values = .ok data → data.length < 2 ^ 256 →
      ∀ r : SimulationResult, r.valid = true → r.reverted = false → r.output <+: data →
      r.output ≠ data → ∀ details : Option Entries, ∃ e : CallError,
        Reading.ofResult (some r) f Decoder.strict (Reading.detailsValue details) =
          .fail (.call e) ∧
        (r.output = [] → e.kind = .emptyOutput) ∧
        (r.output ≠ [] → e.kind = .callFailed ∧ e.cause.isSome) := by
  constructor
  · intro types values data part h hsize hbegin hproper
    obtain ⟨items, _, hencode⟩ := encodeValues_map_abiType_eq_ok_iff.1 h
    rw [decodeValues_map_abiType]
    exact decode_cutOff hencode hsize hbegin hproper
  · intro f hf values data h hsize r valid completed hbegin hproper details
    obtain ⟨items, _, hencode⟩ := encodeValues_map_abiType_eq_ok_iff.1 h
    obtain ⟨hempty, hcut⟩ := decode_cutOff hencode hsize hbegin hproper
    obtain ⟨rule, known⟩ := exists_rule_of_registered hf
    by_cases houtput : r.output = []
    · have hends : Reading.ofResult (some r) f Decoder.strict (Reading.detailsValue details) = _ :=
        Reading.ofResult_eq_of_concludes (.emptyOutput known valid completed (hempty houtput))
      exact ⟨_, hends, fun _ ↦ rfl, absurd houtput⟩
    · obtain ⟨e, he⟩ := hcut houtput
      have hends : Reading.ofResult (some r) f Decoder.strict (Reading.detailsValue details) = _ :=
        Reading.ofResult_eq_of_concludes (.undecodable known valid completed he)
      exact ⟨_, hends, fun hnil ↦ absurd hnil houtput, fun _ ↦ ⟨rfl, rfl⟩⟩

/-- The encoding of one address without its last byte. -/
theorem decodeValues_without_last_byte :
    ∃ data, encodeValues (getValidators.returnTypes.map .abiType)
        (.list [.list [.bytes (List.replicate 20 7)]]) = .ok data ∧
      data.length < 2 ^ 256 ∧ data.dropLast <+: data ∧ data.dropLast ≠ data ∧
      data.dropLast ≠ [] ∧
      (∃ e, decodeValues (getValidators.returnTypes.map .abiType) data.dropLast =
        .error (.decoding e)) ∧
      getValidators ∈ Registry.validatorContract.signatures ∧
      ∃ e : CallError,
        Reading.ofResult (some (.successful data.dropLast)) getValidators Decoder.strict
          (Reading.detailsValue none) = .fail (.call e) ∧ e.kind = .callFailed := by
  obtain ⟨data, hdata, hsize, hproper, hpart⟩ : ∃ data,
      encodeValues (getValidators.returnTypes.map .abiType)
        (.list [.list [.bytes (List.replicate 20 7)]]) = .ok data ∧
      data.length < 2 ^ 256 ∧ data.dropLast ≠ data ∧ data.dropLast ≠ [] :=
    ⟨_, rfl, by decide +kernel, by decide +kernel, by decide +kernel⟩
  have hbegin : data.dropLast <+: data := List.dropLast_prefix data
  have hregistered : getValidators ∈ Registry.validatorContract.signatures := by decide
  obtain ⟨e, he, _, hkind⟩ := decodeValues_cutOff.2 getValidators hregistered _ data hdata hsize
    (.successful data.dropLast) rfl rfl hbegin hproper none
  exact ⟨data, hdata, hsize, hbegin, hproper, hpart,
    (decodeValues_cutOff.1 _ _ data _ hdata hsize hbegin hproper).2 hpart,
    hregistered, e, he, (hkind hpart).1⟩

end ValidatorReader.Abi
