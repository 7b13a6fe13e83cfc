import ValidatorReader.Abi.Decoder
import ValidatorReader.Proofs.Attempt
import ValidatorReader.Proofs.Bytes

/-!
# Reading return data by position

The decoder walks through the data and keeps what is left of it. Here every read is given by its
position instead: the words of the head stand side by side, the head word of an array is the position
of its length, and its items follow word by word. Each reader is an `Except` traversal of positions,
with a lemma that says when it succeeds and with what.
-/

namespace ValidatorReader.Abi

open Attempt

def slice (data : List UInt8) (position size : Nat) : List UInt8 :=
  (data.drop position).take size

/-- The number in the word at a position. -/
def numberAt (data : List UInt8) (position : Nat) : Nat :=
  Bytes.toNat (slice data position 32)

/-- The positions of the items of the array at an offset. -/
def itemPositions (data : List UInt8) (offset : Nat) : List Nat :=
  List.range' (offset + 32) (numberAt data offset) 32

theorem numberAt_lt_bound (data : List UInt8) (position : Nat) :
    numberAt data position < uint256Bound := by
  have hlength : (slice data position 32).length ≤ 32 := List.length_take_le _ _
  calc
    numberAt data position < 256 ^ (slice data position 32).length := Bytes.toNat_lt _
    _ ≤ 256 ^ 32 := Nat.pow_le_pow_right (by decide) hlength
    _ = uint256Bound := by decide

/-! ## Reading at a position -/

/-- The word at a position of the data. -/
def wordAt (data : List UInt8) (position : Nat) : Except DecodingError Word :=
  Prod.fst <$> takeWord (data.drop position)

theorem takeWord_drop (data : List UInt8) (position : Nat) :
    takeWord (data.drop position) =
      (fun word ↦ (word, data.drop (position + 32))) <$> wordAt data position := by
  unfold wordAt takeWord
  split
  · simp [Functor.map, Except.map]
  · rfl

/-- A word is read exactly if all its bytes lie in the data. -/
theorem wordAt_eq_ok_iff {data : List UInt8} {position : Nat} {word : Word} :
    wordAt data position = .ok word ↔
      position + 32 ≤ data.length ∧ word.bytes = slice data position 32 := by
  have hlength : ((data.drop position).take 32).length = 32 ↔ position + 32 ≤ data.length := by
    simp only [List.length_take, List.length_drop]
    omega
  by_cases h : ((data.drop position).take 32).length = 32
  · simp only [wordAt, takeWord, dif_pos h, Functor.map, Except.map, Except.ok.injEq,
      hlength.1 h, true_and]
    constructor
    · rintro rfl
      rfl
    · intro hbytes
      cases word
      simp only [slice] at hbytes
      simp [hbytes]
  · simp only [wordAt, takeWord, dif_neg h, Functor.map, Except.map, reduceCtorEq, false_iff,
      not_and]
    intro hposition
    exact absurd (hlength.2 hposition) h

theorem toNat_of_wordAt {data : List UInt8} {position : Nat} {word : Word}
    (h : wordAt data position = .ok word) : word.toNat = numberAt data position := by
  rw [Word.toNat, numberAt, (wordAt_eq_ok_iff.1 h).2]

theorem exists_wordAt {data : List UInt8} {position : Nat} (h : position + 32 ≤ data.length) :
    ∃ word, wordAt data position = .ok word :=
  ⟨⟨slice data position 32, by simp only [slice, List.length_take, List.length_drop]; omega⟩,
    wordAt_eq_ok_iff.2 ⟨h, rfl⟩⟩

/-- A word stands for an address exactly if its padding is zero. -/
theorem toAddress_eq_ok_iff {word : Word} {a : Address} :
    word.toAddress = .ok a ↔
      (∀ byte ∈ word.bytes.take 12, byte = 0) ∧ a.bytes = word.bytes.drop 12 := by
  have hclean : word.padding.any (· != 0) = false ↔ ∀ byte ∈ word.bytes.take 12, byte = 0 := by
    simp [Word.padding]
  cases h : word.padding.any (· != 0)
  · simp only [Word.toAddress, h, Bool.false_eq_true, if_false, Except.ok.injEq]
    constructor
    · rintro rfl
      exact ⟨hclean.1 h, rfl⟩
    · rintro ⟨_, hbytes⟩
      exact Address.ext hbytes.symm
  · simp only [Word.toAddress, h, if_true, reduceCtorEq, false_iff, not_and]
    intro hzero
    rw [hclean.2 hzero] at h
    exact absurd h (by decide)

/-- The address in the word at a position. -/
def addressAt (data : List UInt8) (position : Nat) : Except DecodingError Address :=
  wordAt data position >>= Word.toAddress

/-- An address is read exactly if its word lies in the data, with padding of zeros. -/
theorem addressAt_eq_ok_iff {data : List UInt8} {position : Nat} {a : Address} :
    addressAt data position = .ok a ↔
      position + 32 ≤ data.length ∧ (∀ byte ∈ slice data position 12, byte = 0) ∧
        a.bytes = slice data (position + 12) 20 := by
  have hpadding : (slice data position 32).take 12 = slice data position 12 := by
    simp [slice, List.take_take]
  have haddress : (slice data position 32).drop 12 = slice data (position + 12) 20 := by
    simp [slice, List.drop_take, List.drop_drop]
  simp only [addressAt, bind_eq_ok_iff, toAddress_eq_ok_iff]
  constructor
  · rintro ⟨word, hword, hclean, hbytes⟩
    obtain ⟨hposition, hslice⟩ := wordAt_eq_ok_iff.1 hword
    rw [hslice, hpadding] at hclean
    rw [hslice, haddress] at hbytes
    exact ⟨hposition, hclean, hbytes⟩
  · rintro ⟨hposition, hclean, hbytes⟩
    obtain ⟨word, hword⟩ := exists_wordAt hposition
    refine ⟨word, hword, ?_, ?_⟩
    · rwa [(wordAt_eq_ok_iff.1 hword).2, hpadding]
    · rw [(wordAt_eq_ok_iff.1 hword).2, haddress, hbytes]

theorem exists_addressAt {data : List UInt8} {position : Nat} (h : position + 32 ≤ data.length)
    (hclean : ∀ byte ∈ slice data position 12, byte = 0) :
    ∃ a, addressAt data position = .ok a :=
  ⟨⟨slice data (position + 12) 20, by
      simp only [slice, List.length_take, List.length_drop]
      omega⟩, addressAt_eq_ok_iff.2 ⟨h, hclean, rfl⟩⟩

/-! ## Arrays -/

/-- Items are read one after the other, each from the position behind the one before. -/
theorem readItems_drop (data : List UInt8) (count position : Nat) :
    (readItems count (data.drop position)).result =
      (List.range' position count 32).mapM (addressAt data) := by
  induction count generalizing position with
  | zero => rfl
  | succ count ih =>
    rw [List.range'_succ, List.mapM_cons, readItems, takeWord_drop, addressAt]
    cases wordAt data position with
    | error e => rfl
    | ok word =>
      simp only [Functor.map, Except.map, bind, Except.bind]
      cases word.toAddress with
      | error e => rfl
      | ok a =>
        rw [ih (position + 32)]
        rfl

theorem readArray_eq_bind (data : List UInt8) (offset : Nat) :
    readArray data offset = wordAt data offset >>= fun word ↦
      (List.range' (offset + 32) word.toNat 32).mapM (addressAt data) := by
  rw [readArray, takeWord_drop]
  cases wordAt data offset with
  | error e => rfl
  | ok word => exact readItems_drop data word.toNat (offset + 32)

/-- Reading addresses at positions gives the last twenty bytes of each word, if each word is there
and begins with zeros. -/
theorem mapM_addressAt_eq_ok_iff {data : List UInt8} {positions : List Nat} {as : List Address} :
    positions.mapM (addressAt data) = .ok as ↔
      (∀ position ∈ positions, position + 32 ≤ data.length ∧
        ∀ byte ∈ slice data position 12, byte = 0) ∧
      as.map Address.bytes = positions.map fun position ↦ slice data (position + 12) 20 := by
  rw [mapM_eq_ok_iff]
  constructor
  · intro h
    induction h with
    | nil => simp
    | cons ha _ ih =>
      obtain ⟨hposition, hclean, hbytes⟩ := addressAt_eq_ok_iff.1 ha
      exact ⟨List.forall_mem_cons.2 ⟨⟨hposition, hclean⟩, ih.1⟩, by simp [hbytes, ih.2]⟩
  · rintro ⟨hwords, hbytes⟩
    induction positions generalizing as with
    | nil => simp_all
    | cons position positions ih =>
      obtain ⟨hword, hwords⟩ := List.forall_mem_cons.1 hwords
      cases as with
      | nil => simp at hbytes
      | cons a as =>
        simp only [List.map_cons, List.cons.injEq] at hbytes
        exact .cons (addressAt_eq_ok_iff.2 ⟨hword.1, hword.2, hbytes.1⟩) (ih hwords hbytes.2)

/-- The array at an offset: it begins behind the head and inside the data, its length and all its
items are there, and no item has a byte other than zero in front of its address. -/
structure HoldsArray (data : List UInt8) (headSize offset : Nat) : Prop where
  behind_head : headSize ≤ offset
  inside : offset < data.length
  length_word : offset + 32 ≤ data.length
  item_words : offset + 32 + 32 * numberAt data offset ≤ data.length
  padding : ∀ position ∈ itemPositions data offset, ∀ byte ∈ slice data position 12, byte = 0

instance (data : List UInt8) (headSize offset : Nat) : Decidable (HoldsArray data headSize offset) :=
  decidable_of_iff
    (headSize ≤ offset ∧ offset < data.length ∧ offset + 32 ≤ data.length ∧
      offset + 32 + 32 * numberAt data offset ≤ data.length ∧
      ∀ position ∈ itemPositions data offset, ∀ byte ∈ slice data position 12, byte = 0)
    ⟨fun ⟨h₁, h₂, h₃, h₄, h₅⟩ ↦ ⟨h₁, h₂, h₃, h₄, h₅⟩, fun ⟨h₁, h₂, h₃, h₄, h₅⟩ ↦ ⟨h₁, h₂, h₃, h₄, h₅⟩⟩

def itemBytes (data : List UInt8) (offset : Nat) : List (List UInt8) :=
  (itemPositions data offset).map fun position ↦ slice data (position + 12) 20

/-- The items of an array lie in the data exactly if its end does. -/
theorem itemPositions_inside_iff {data : List UInt8} {offset : Nat}
    (h : offset + 32 ≤ data.length) :
    (∀ position ∈ itemPositions data offset, position + 32 ≤ data.length) ↔
      offset + 32 + 32 * numberAt data offset ≤ data.length := by
  simp only [itemPositions, List.mem_range', forall_exists_index, and_imp]
  constructor
  · intro hinside
    rcases Nat.eq_zero_or_pos (numberAt data offset) with hzero | hpos
    · omega
    · have hlast := hinside _ (numberAt data offset - 1) (by omega) rfl
      omega
  · rintro hitems position index hindex rfl
    omega

/-- An array is read exactly if its length and its items lie in the data, with padding of zeros.
-/
theorem readArray_eq_ok_iff {data : List UInt8} {offset : Nat} {as : List Address} :
    readArray data offset = .ok as ↔
      offset + 32 ≤ data.length ∧ offset + 32 + 32 * numberAt data offset ≤ data.length ∧
      (∀ position ∈ itemPositions data offset, ∀ byte ∈ slice data position 12, byte = 0) ∧
      as.map Address.bytes = itemBytes data offset := by
  simp only [readArray_eq_bind, bind_eq_ok_iff]
  constructor
  · rintro ⟨word, hword, has⟩
    have hlength := (wordAt_eq_ok_iff.1 hword).1
    rw [toNat_of_wordAt hword, mapM_addressAt_eq_ok_iff] at has
    obtain ⟨hwords, hbytes⟩ := has
    have hinside : ∀ position ∈ itemPositions data offset, position + 32 ≤ data.length :=
      fun position hposition ↦ (hwords position hposition).1
    exact ⟨hlength, (itemPositions_inside_iff hlength).1 hinside,
      fun position hposition ↦ (hwords position hposition).2, hbytes⟩
  · rintro ⟨hlength, hitems, hpadding, hbytes⟩
    obtain ⟨word, hword⟩ := exists_wordAt hlength
    refine ⟨word, hword, ?_⟩
    rw [toNat_of_wordAt hword, mapM_addressAt_eq_ok_iff]
    have hinside := (itemPositions_inside_iff hlength).2 hitems
    exact ⟨fun position hposition ↦ ⟨hinside position hposition, hpadding position hposition⟩,
      hbytes⟩

/-- Every array that data holds is read. -/
theorem exists_readArray {data : List UInt8} {headSize offset : Nat}
    (h : HoldsArray data headSize offset) : ∃ as, readArray data offset = .ok as := by
  obtain ⟨word, hword⟩ := exists_wordAt h.length_word
  obtain ⟨as, has⟩ := exists_mapM_eq_ok (addressAt data) (itemPositions data offset)
    fun position hposition ↦ exists_addressAt
      ((itemPositions_inside_iff h.length_word).2 h.item_words position hposition)
      (h.padding position hposition)
  refine ⟨as, ?_⟩
  rw [readArray_eq_bind, bind_eq_ok_iff]
  refine ⟨word, hword, ?_⟩
  rw [toNat_of_wordAt hword]
  exact has

/-! ## The head -/

/-- What the head word at a position holds for a type. -/
def slotAt (headSize : Nat) (data : List UInt8) (position : Nat) (type : AbiType) :
    Except DecodingError Slot := do
  let word ← wordAt data position
  match type with
  | .uint256 => .ok (.number word)
  | .addressArray =>
    if headSize ≤ word.toNat ∧ word.toNat < data.length then .ok (.array word.toNat)
    else .error (.invalidPointer position)

/-- Reading the head from any of its places on: each type is read at a place of its own. -/
theorem readHead_drop (headSize : Nat) (data : List UInt8) (types : List AbiType) (index : Nat) :
    readHead headSize data.length (32 * index) types (data.drop (32 * index)) =
      (types.zipIdx index).mapM fun entry ↦ slotAt headSize data (32 * entry.2) entry.1 := by
  induction types generalizing index with
  | nil => rfl
  | cons type types ih =>
    rw [List.zipIdx_cons, List.mapM_cons, readHead, takeWord_drop, slotAt, ← ih (index + 1)]
    cases wordAt data (32 * index) with
    | error e => rfl
    | ok word =>
      cases type with
      | uint256 => rfl
      | addressArray =>
        by_cases hpointer : headSize ≤ word.toNat ∧ word.toNat < data.length
        · simp only [bind, Except.bind, Functor.map, Except.map, if_pos hpointer, Nat.mul_add]
        · simp only [bind, Except.bind, Functor.map, Except.map, if_neg hpointer]

theorem slotAt_uint256_eq_ok_iff {headSize position : Nat} {data : List UInt8} {slot : Slot} :
    slotAt headSize data position .uint256 = .ok slot ↔
      ∃ word, wordAt data position = .ok word ∧ slot = .number word := by
  simp only [slotAt, bind_eq_ok_iff, Except.ok.injEq]
  exact exists_congr fun word ↦ and_congr_right fun _ ↦ eq_comm

/-- An offset is taken exactly if it leads behind the head and into the data. -/
theorem slotAt_addressArray_eq_ok_iff {headSize position : Nat} {data : List UInt8}
    {slot : Slot} :
    slotAt headSize data position .addressArray = .ok slot ↔
      position + 32 ≤ data.length ∧ headSize ≤ numberAt data position ∧
        numberAt data position < data.length ∧ slot = .array (numberAt data position) := by
  simp only [slotAt, bind_eq_ok_iff]
  constructor
  · rintro ⟨word, hword, hslot⟩
    rw [toNat_of_wordAt hword] at hslot
    split at hslot
    · rename_i hpointer
      simp only [Except.ok.injEq] at hslot
      exact ⟨(wordAt_eq_ok_iff.1 hword).1, hpointer.1, hpointer.2, hslot.symm⟩
    · simp at hslot
  · rintro ⟨hposition, hbehind, hinside, rfl⟩
    obtain ⟨word, hword⟩ := exists_wordAt hposition
    refine ⟨word, hword, ?_⟩
    rw [toNat_of_wordAt hword, if_pos ⟨hbehind, hinside⟩]

end ValidatorReader.Abi
