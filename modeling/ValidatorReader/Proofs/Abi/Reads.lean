import ValidatorReader.Proofs.Abi.Layout

/-!
# The reads behind a decoded value

Decoding is a sequence of reads of whole words: the head from left to right, and then array after
array its length and its items. A read fails if its word is cut short, if it is the offset of an array
that does not lie behind the head and inside the data, or if it is an item with dirty padding. Data is
refused with the error of its first read that fails. The length of an array may be any number, but no
more items are tried than the data has room for.
-/

namespace ValidatorReader.Abi

open Attempt

/-- A read of a whole word at a position: a number, the offset of an array, or an item of one. -/
inductive Read
  | number (position : ℕ)
  | offset (position : ℕ)
  | item (position : ℕ)

namespace Read

def position : Read → ℕ
  | number position => position
  | offset position => position
  | item position => position

/-- How a read fails, in data with a head of a given size. -/
inductive Fails (headSize : ℕ) (data : List UInt8) : Read → DecodingError → Prop
  | cutShort {read : Read} (short : data.length < read.position + 32) :
    Fails headSize data read (.insufficientData (data.length - read.position))
  | badOffset {position : ℕ} (complete : position + 32 ≤ data.length)
    (outside : numberAt data position < headSize ∨ data.length ≤ numberAt data position) :
    Fails headSize data (.offset position) (.invalidPointer position)
  | dirtyItem {position : ℕ} {byte : UInt8} (complete : position + 32 ≤ data.length)
    (padding : byte ∈ slice data position 12) (dirty : byte ≠ 0) :
    Fails headSize data (.item position) (.dirtyPadding (slice data position 12))

/-- Whether a read does not fail. -/
def Passes (headSize : ℕ) (data : List UInt8) (read : Read) : Prop :=
  ∀ e, ¬ read.Fails headSize data e

/-- The error of a read, by the reader of its word. -/
def fault? (headSize : ℕ) (data : List UInt8) : Read → Option DecodingError
  | number position => Attempt.fault? (wordAt data position)
  | offset position => Attempt.fault? (slotAt headSize data position .addressArray)
  | item position => Attempt.fault? (addressAt data position)

end Read

def headRead (position : ℕ) : AbiType → Read
  | .uint256 => .number position
  | .addressArray => .offset position

/-- The reads of the head: a word for each type. -/
def headReads (types : List AbiType) : List Read :=
  types.zipIdx.map fun entry ↦ headRead (32 * entry.2) entry.1

/-- The reads of the array at an offset: its length, and as many items as the length says. -/
def arrayReads (data : List UInt8) (offset : ℕ) : List Read :=
  .number offset :: (itemPositions data offset).map .item

/-- The reads that the head word at a position leads to. -/
def slotReads (data : List UInt8) (position : ℕ) : AbiType → List Read
  | .uint256 => []
  | .addressArray => arrayReads data (numberAt data position)

/-- The reads behind the head: the arrays in the order of their offsets in the head. -/
def tailReads (types : List AbiType) (data : List UInt8) : List Read :=
  types.zipIdx.flatMap fun entry ↦ slotReads data (32 * entry.2) entry.1

/-- Whether an error is that of the first read that fails. -/
def FailsFirst (headSize : ℕ) (data : List UInt8) (reads : List Read) (e : DecodingError) : Prop :=
  ∃ before read after, reads = before ++ read :: after ∧
    (∀ earlier ∈ before, earlier.Passes headSize data) ∧ read.Fails headSize data e

/-! ## Errors of a single read -/

variable {types : List AbiType} {data : List UInt8} {headSize position : ℕ} {read : Read}
  {reads others : List Read} {e : DecodingError}

theorem wordAt_of_short (h : data.length < position + 32) :
    wordAt data position = .error (.insufficientData (data.length - position)) := by
  have hlength : ((data.drop position).take 32).length = data.length - position := by
    simp only [List.length_take, List.length_drop]
    omega
  have hshort : ¬ ((data.drop position).take 32).length = 32 := by omega
  rw [wordAt, takeWord, dif_neg hshort, hlength]
  rfl

theorem toAddress_eq_error_iff {word : Word} :
    word.toAddress = .error e ↔
      (∃ byte ∈ word.padding, byte ≠ 0) ∧ e = .dirtyPadding word.padding := by
  have hdirty : word.padding.any (· != 0) = true ↔ ∃ byte ∈ word.padding, byte ≠ 0 := by simp
  rw [← hdirty, Word.toAddress]
  split_ifs with h
  · simp [h, eq_comm]
  · simp [h]

namespace Read

/-- A word that ends outside the data fails before its content is looked at. -/
theorem fault?_of_short (h : data.length < read.position + 32) :
    read.fault? headSize data = some (.insufficientData (data.length - read.position)) := by
  cases read with
  | number position =>
    have hword : wordAt data position = _ := wordAt_of_short h
    rw [fault?, hword, Attempt.fault?_error]
    rfl
  | offset position =>
    have hword : wordAt data position = _ := wordAt_of_short h
    rw [fault?, slotAt, hword, Attempt.fault?_bind_error]
    rfl
  | item position =>
    have hword : wordAt data position = _ := wordAt_of_short h
    rw [fault?, addressAt, hword, Attempt.fault?_bind_error]
    rfl

theorem fails_iff_of_short (h : data.length < read.position + 32) :
    read.Fails headSize data e ↔ e = .insufficientData (data.length - read.position) := by
  constructor
  · intro hfails
    cases hfails with
    | cutShort => rfl
    | badOffset complete => exact absurd h complete.not_gt
    | dirtyItem complete => exact absurd h complete.not_gt
  · rintro rfl
    exact .cutShort h

/-- The reader of a word fails as the rules say. -/
theorem fault?_eq_some_iff : read.fault? headSize data = some e ↔ read.Fails headSize data e := by
  rcases lt_or_ge data.length (read.position + 32) with hshort | hcomplete
  · rw [fault?_of_short hshort, fails_iff_of_short hshort, Option.some.injEq, eq_comm]
  · obtain ⟨word, hword⟩ := exists_wordAt hcomplete
    cases read with
    | number position =>
      rw [Read.position] at hword hcomplete
      rw [fault?, hword]
      constructor
      · nofun
      · rintro ⟨short⟩
        exact absurd short hcomplete.not_gt
    | offset position =>
      rw [Read.position] at hword hcomplete
      rw [fault?, slotAt, hword, Attempt.fault?_bind_ok, toNat_of_wordAt hword]
      constructor
      · intro h
        split_ifs at h with hinside
        · cases h
        · obtain rfl := Option.some.inj h
          exact .badOffset hcomplete (by omega)
      · intro h
        cases h with
        | cutShort short => exact absurd short hcomplete.not_gt
        | badOffset complete outside =>
          rw [if_neg (by omega)]
          rfl
    | item position =>
      rw [Read.position] at hword hcomplete
      have hpadding : word.padding = slice data position 12 := by
        rw [Word.padding, (wordAt_eq_ok_iff.1 hword).2]
        simp [slice, List.take_take]
      rw [fault?, addressAt, hword, Attempt.fault?_bind_ok, Attempt.fault?_eq_some_iff,
        toAddress_eq_error_iff, hpadding]
      constructor
      · rintro ⟨⟨byte, hbyte, hdirty⟩, rfl⟩
        exact .dirtyItem hcomplete hbyte hdirty
      · intro h
        cases h with
        | cutShort short => exact absurd short hcomplete.not_gt
        | dirtyItem complete padding dirty => exact ⟨⟨_, padding, dirty⟩, rfl⟩

theorem fault?_eq_none_iff : read.fault? headSize data = none ↔ read.Passes headSize data := by
  simp only [Option.eq_none_iff_forall_ne_some, ne_eq, fault?_eq_some_iff, Passes]

end Read

/-- Searching reads for a fault finds that of the first one that fails. -/
theorem findSome?_fault?_eq_some_iff :
    reads.findSome? (Read.fault? headSize data) = some e ↔ FailsFirst headSize data reads e := by
  rw [List.findSome?_eq_some_iff]
  simp only [Read.fault?_eq_some_iff, Read.fault?_eq_none_iff, FailsFirst]
  constructor
  · rintro ⟨before, read, after, hreads, hfails, hpasses⟩
    exact ⟨before, read, after, hreads, hpasses, hfails⟩
  · rintro ⟨before, read, after, hreads, hpasses, hfails⟩
    exact ⟨before, read, after, hreads, hfails, hpasses⟩

/-! ## Errors of a whole array and of the whole data -/

/-- Reading an array fails with the first fault among its length and its items. -/
theorem fault?_readArray (data : List UInt8) (offset : ℕ) :
    Attempt.fault? (readArray data offset) =
      (arrayReads data offset).findSome? (Read.fault? headSize data) := by
  rw [readArray_eq_bind, arrayReads, List.findSome?_cons, Read.fault?]
  cases hword : wordAt data offset with
  | error e => rfl
  | ok word =>
    rw [fault?_bind_ok, fault?_ok, fault?_mapM, toNat_of_wordAt hword, List.findSome?_map]
    rfl

theorem fault?_slotAt (headSize : ℕ) (data : List UInt8) (position : ℕ) (type : AbiType) :
    Attempt.fault? (slotAt headSize data position type) =
      (headRead position type).fault? headSize data := by
  cases type with
  | uint256 =>
    rw [headRead, Read.fault?, slotAt]
    cases wordAt data position <;> rfl
  | addressArray => rfl

/-- What a slot holds fails to be read as its array does. -/
theorem fault?_readSlot {type : AbiType} {slot : Slot}
    (h : slotAt headSize data position type = .ok slot) :
    (slotReads data position type).findSome? (Read.fault? headSize data) =
      Attempt.fault? (readSlot data slot) := by
  cases type with
  | uint256 =>
    obtain ⟨word, _, rfl⟩ := slotAt_uint256_eq_ok_iff.1 h
    rfl
  | addressArray =>
    obtain ⟨_, _, _, rfl⟩ := slotAt_addressArray_eq_ok_iff.1 h
    rw [slotReads, ← fault?_readArray, readSlot]
    exact (fault?_map (fun as : List Address ↦ Value.tuple (as.map fun a ↦ .text a.toHex)) _).symm

theorem findSome?_headReads (headSize : ℕ) (types : List AbiType) (data : List UInt8) :
    (headReads types).findSome? (Read.fault? headSize data) =
      Attempt.fault? (types.zipIdx.mapM fun entry ↦
        slotAt headSize data (32 * entry.2) entry.1) := by
  rw [headReads, List.findSome?_map, fault?_mapM]
  simp only [fault?_slotAt]
  rfl

/-- Once the head is read, what can fail are the arrays it leads to. -/
theorem findSome?_tailReads {slots : List Slot}
    (h : (types.zipIdx.mapM fun entry ↦ slotAt headSize data (32 * entry.2) entry.1) = .ok slots) :
    (tailReads types data).findSome? (Read.fault? headSize data) =
      Attempt.fault? (slots.mapM (readSlot data)) := by
  rw [tailReads, findSome?_flatMap, fault?_mapM]
  apply findSome?_eq_of_forall₂
  exact (mapM_eq_ok_iff.1 h).imp fun _ _ hslot ↦ fault?_readSlot hslot

/-- Decoding fails with the first fault, where the whole head is read before any array. -/
theorem fault?_readValues (types : List AbiType) (data : List UInt8) :
    Attempt.fault? (readValues types data) =
      (headReads types ++ tailReads types data).findSome?
        (Read.fault? (32 * types.length) data) := by
  rw [readValues_eq_bind, List.findSome?_append, findSome?_headReads]
  cases hslots : types.zipIdx.mapM fun entry ↦
      slotAt (32 * types.length) data (32 * entry.2) entry.1 with
  | error e => rfl
  | ok slots =>
    rw [fault?_bind_ok, findSome?_tailReads hslots]
    rfl

/-- Data is refused with the error of its first read that fails. -/
theorem decode_eq_error_iff (types : List AbiType) (hdata : data ≠ []) {failure : Failure} :
    decode types data = .error failure ↔ ∃ e, failure = .decoding e ∧
      FailsFirst (32 * types.length) data (headReads types ++ tailReads types data) e := by
  have herror (e : DecodingError) : readValues types data = .error e ↔
      FailsFirst (32 * types.length) data (headReads types ++ tailReads types data) e := by
    rw [← fault?_eq_some_iff, fault?_readValues, findSome?_fault?_eq_some_iff]
  simp only [← herror]
  rw [decode_of_ne_nil types hdata]
  cases hread : readValues types data with
  | error e => simp [Except.mapError, bind, Except.bind, eq_comm]
  | ok values =>
    obtain ⟨wrapped, hwrapped, _⟩ := exists_wrap_of_readValues hread
    simp [Except.mapError, bind, Except.bind, hwrapped]

/-! ## The number of reads -/

theorem length_of_takeWord {word : Word} {rest : List UInt8}
    (h : takeWord data = .ok (word, rest)) : rest.length + 32 = data.length := by
  unfold takeWord at h
  split at h
  · rename_i hlength
    simp only [Except.ok.injEq, Prod.mk.injEq] at h
    obtain ⟨_, rfl⟩ := h
    simp only [List.length_take, List.length_drop] at hlength ⊢
    omega
  · cases h

/-- Every item that is tried but the last takes a word of the data, whatever their number is. -/
theorem reads_readItems_le (count : ℕ) (data : List UInt8) :
    (readItems count data).reads ≤ data.length / 32 + 1 := by
  induction count generalizing data with
  | zero => exact Nat.zero_le _
  | succ count ih =>
    rw [readItems]
    split
    · exact Nat.le_add_left 1 _
    · rename_i word rest hword
      have hlength := length_of_takeWord hword
      have hrest := ih rest
      split
      · exact Nat.le_add_left 1 _
      · show (readItems count rest).reads + 1 ≤ data.length / 32 + 1
        omega

/-- The items that are tried are those up to the first that fails, or all of them. -/
theorem reads_readItems (data : List UInt8) (count position : ℕ) :
    (readItems count (data.drop position)).reads =
      min count ((List.range' position count 32).findIdx
        (fun place ↦ (Attempt.fault? (addressAt data place)).isSome) + 1) := by
  induction count generalizing position with
  | zero => rfl
  | succ count ih =>
    rw [List.range'_succ, List.findIdx_cons, readItems, takeWord_drop, addressAt]
    cases wordAt data position with
    | error e => simp [Functor.map, Except.map, bind, Except.bind]
    | ok word =>
      simp only [Functor.map, Except.map, bind, Except.bind]
      cases word.toAddress with
      | error e => simp
      | ok a =>
        simp only [ih (position + 32), fault?_ok, Option.isSome_none, cond_false]
        omega

/-- Data is refused exactly with the error of its first read that fails, since wrapping what was read
never fails. In an array of any length, items are tried up to the first that fails, and not more of
them than the data has whole words and one. -/
theorem decodeValues_failsFirst (types : List AbiType) (data : List UInt8) (hdata : data ≠ []) :
    (∀ failure, decodeValues (types.map .abiType) data = .error failure ↔
      ∃ e, failure = .decoding e ∧
        FailsFirst (32 * types.length) data (headReads types ++ tailReads types data) e) ∧
    (∀ values, readValues types data = .ok values →
      ∃ wrapped, ((types.zip values).mapM fun (type, value) ↦ TypedValue.wrap type value) =
        .ok wrapped) ∧
    ∀ offset word, wordAt data offset = .ok word →
      let scan := readItems word.toNat (data.drop (offset + 32))
      readArray data offset = scan.result ∧
      scan.reads = min word.toNat ((itemPositions data offset).findIdx
        (fun position ↦ (Attempt.fault? (addressAt data position)).isSome) + 1) ∧
      scan.reads ≤ data.length / 32 + 1 := by
  refine ⟨?_, ?_, ?_⟩
  · intro failure
    rw [decodeValues_map_abiType]
    exact decode_eq_error_iff types hdata
  · intro values h
    obtain ⟨wrapped, hwrapped, _⟩ := exists_wrap_of_readValues h
    exact ⟨wrapped, hwrapped⟩
  · intro offset word hword
    refine ⟨?_, ?_, ?_⟩
    · rw [readArray_eq_bind, hword, readItems_drop]
      rfl
    · rw [reads_readItems, itemPositions, toNat_of_wordAt hword]
    · have hrest : (data.drop (offset + 32)).length ≤ data.length := by
        rw [List.length_drop]
        exact Nat.sub_le _ _
      calc
        _ ≤ (data.drop (offset + 32)).length / 32 + 1 := reads_readItems_le _ _
        _ ≤ data.length / 32 + 1 := Nat.succ_le_succ (Nat.div_le_div_right hrest)

/-- An array of the greatest length whose only item has dirty padding. -/
def endlessArray : List UInt8 :=
  wordBytes 32 ++ wordBytes (2 ^ 256 - 1) ++ 0xff :: List.replicate 31 0

/-- The dirty item is reached before the items run out. -/
theorem decodeValues_endlessArray :
    endlessArray ≠ [] ∧
    decodeValues ([.addressArray].map .abiType) endlessArray =
      .error (.decoding (.dirtyPadding (0xff :: List.replicate 11 0))) ∧
    ∃ word, wordAt endlessArray 32 = .ok word ∧ word.toNat = 2 ^ 256 - 1 ∧
      (readItems word.toNat (endlessArray.drop 64)).reads ≤ 4 := by
  have hne : endlessArray ≠ [] := by decide +kernel
  obtain ⟨hfails, _, hscan⟩ := decodeValues_failsFirst [.addressArray] endlessArray hne
  have hoffset : numberAt endlessArray 0 = 32 := by decide +kernel
  have hcount : numberAt endlessArray 32 = 2 ^ 256 - 1 := by decide +kernel
  obtain ⟨word, hword⟩ : ∃ word, wordAt endlessArray 32 = .ok word :=
    exists_wordAt (by decide +kernel)
  have hpadding : (0xff : UInt8) ∈ slice endlessArray 64 12 := by decide +kernel
  have hreads : headReads [.addressArray] ++ tailReads [.addressArray] endlessArray =
      [.offset 0, .number 32] ++ .item 64 :: (List.range' 96 (2 ^ 256 - 2) 32).map .item := by
    have hpositions : itemPositions endlessArray 32 = 64 :: List.range' 96 (2 ^ 256 - 2) 32 := by
      rw [itemPositions, hcount]
      exact List.range'_succ
    simp [headReads, tailReads, headRead, slotReads, arrayReads, hoffset, hpositions]
  refine ⟨hne, ?_, word, hword, ?_, ?_⟩
  · apply (hfails _).2
    refine ⟨_, rfl, _, _, _, hreads, ?_, ?_⟩
    · intro earlier hearlier
      rcases List.mem_pair.1 hearlier with rfl | rfl
      · exact Read.fault?_eq_none_iff.1 rfl
      · exact Read.fault?_eq_none_iff.1 rfl
    · exact .dirtyItem (by decide +kernel) hpadding (by decide)
  · rw [toNat_of_wordAt hword, hcount]
  · exact (hscan 32 word hword).2.2

end ValidatorReader.Abi
