import ValidatorReader.Proofs.Abi.Layout

/-!
# The layout of an encoding

An encoding is the layout without gaps: the tails of the arrays follow the head in order, each head
word of an array is the position of its tail, and the last tail ends with the data. Every offset
is therefore the length of the head and of the tails before it.
-/

namespace ValidatorReader.Abi

/-- The number in the head word of an argument whose tail begins at an offset. -/
def Argument.headNumber (offset : Nat) : Argument → Nat
  | word n => n
  | array _ => offset

/-- The tails of arguments one after the other. -/
def tailBytes (args : List Argument) : List UInt8 :=
  args.flatMap Argument.tail

theorem headBytes_cons (offset : Nat) (arg : Argument) (args : List Argument) :
    headBytes offset (arg :: args) =
      wordBytes (arg.headNumber offset) ++ headBytes (offset + arg.tail.length) args := by
  cases arg <;> rfl

@[simp]
theorem length_wordBytes (n : Nat) : (wordBytes n).length = 32 :=
  Bytes.length_ofNat 32 n

theorem toNat_wordBytes {n : Nat} (h : n < uint256Bound) : Bytes.toNat (wordBytes n) = n :=
  Bytes.toNat_ofNat (Nat.lt_of_lt_of_eq h (by decide))

@[simp]
theorem length_addressWord (a : Address) : (addressWord a).length = 32 := by
  simp [addressWord, a.length_bytes]

@[simp]
theorem length_flatMap_addressWord (items : List Address) :
    (items.flatMap addressWord).length = 32 * items.length := by
  induction items with
  | nil => rfl
  | cons a items ih =>
    simp only [List.flatMap_cons, List.length_append, length_addressWord, ih, List.length_cons]
    omega

@[simp]
theorem length_headBytes (offset : Nat) (args : List Argument) :
    (headBytes offset args).length = 32 * args.length := by
  induction args generalizing offset with
  | nil => rfl
  | cons arg args ih =>
    simp only [headBytes_cons, List.length_append, length_wordBytes, ih, List.length_cons]
    omega

theorem headBytes_append (offset : Nat) (args rest : List Argument) :
    headBytes offset (args ++ rest) =
      headBytes offset args ++ headBytes (offset + (tailBytes args).length) rest := by
  induction args generalizing offset with
  | nil => rfl
  | cons arg args ih =>
    simp [headBytes_cons, ih, tailBytes, Nat.add_assoc]

theorem length_encodeArguments (args : List Argument) :
    (encodeArguments args).length = 32 * args.length + (tailBytes args).length := by
  simp [encodeArguments, tailBytes]

/-! ## Where an argument is found -/

variable (before : List Argument) (arg : Argument) (after : List Argument)

/-- Where the tail of the argument between two runs of arguments begins. -/
def tailOffset : Nat :=
  32 * (before ++ arg :: after).length + (tailBytes before).length

/-- Any argument splits an encoding: heads before its own, its head, and the heads and tails
behind. -/
theorem encodeArguments_split :
    encodeArguments (before ++ arg :: after) =
      headBytes (32 * (before ++ arg :: after).length) before ++
        (wordBytes (arg.headNumber (tailOffset before arg after)) ++
          headBytes (tailOffset before arg after + arg.tail.length) after) ++
        tailBytes before ++ (arg.tail ++ tailBytes after) := by
  simp [encodeArguments, headBytes_append, headBytes_cons, tailOffset, tailBytes]

/-- The head word of an argument stands at its place in the head. -/
theorem slice_head :
    slice (encodeArguments (before ++ arg :: after)) (32 * before.length) 32 =
      wordBytes (arg.headNumber (tailOffset before arg after)) := by
  rw [slice, encodeArguments_split]
  simp only [List.append_assoc]
  rw [List.drop_left' (length_headBytes _ _), List.take_left' (length_wordBytes _)]

/-- The tail of an argument begins at its offset, and the later tails follow it. -/
theorem drop_tailOffset :
    (encodeArguments (before ++ arg :: after)).drop (tailOffset before arg after) =
      arg.tail ++ tailBytes after := by
  rw [encodeArguments_split]
  apply List.drop_left'
  simp only [List.length_append, length_headBytes, length_wordBytes, List.length_cons, tailOffset]
  omega

theorem length_encodeArguments_split :
    (encodeArguments (before ++ arg :: after)).length =
      tailOffset before arg after + arg.tail.length + (tailBytes after).length := by
  simp only [length_encodeArguments, tailOffset, tailBytes, List.flatMap_append,
    List.flatMap_cons, List.length_append]
  omega

/-- The number in the head of an argument, read off the whole encoding. -/
theorem numberAt_head
    (h : arg.headNumber (tailOffset before arg after) < uint256Bound) :
    numberAt (encodeArguments (before ++ arg :: after)) (32 * before.length) =
      arg.headNumber (tailOffset before arg after) := by
  rw [numberAt, slice_head, toNat_wordBytes h]

/-! ## Arrays in data -/

variable {data rest : List UInt8} {items : List Address} {offset position : Nat}

/-- Addresses written one behind the other are the items found there, with padding of zeros. -/
theorem items_of_drop_eq (h : data.drop position = items.flatMap addressWord ++ rest) :
    (∀ q ∈ List.range' position items.length 32, ∀ byte ∈ slice data q 12, byte = 0) ∧
      (List.range' position items.length 32).map (fun q ↦ slice data (q + 12) 20) =
        items.map Address.bytes := by
  induction items generalizing position with
  | nil => simp
  | cons a items ih =>
    have hnext : data.drop (position + 32) = items.flatMap addressWord ++ rest := by
      rw [← List.drop_drop, h, List.flatMap_cons, List.append_assoc,
        List.drop_left' (length_addressWord a)]
    have hclean : slice data position 12 = List.replicate 12 0 := by
      simp [slice, h, addressWord]
    have hbytes : slice data (position + 12) 20 = a.bytes := by
      rw [slice, ← List.drop_drop, h]
      simp [addressWord, a.length_bytes]
    obtain ⟨ihclean, ihbytes⟩ := ih hnext
    simp only [List.length_cons, List.range'_succ, List.forall_mem_cons, List.map_cons, hbytes,
      ihbytes, and_true]
    exact ⟨fun byte hbyte ↦ List.eq_of_mem_replicate (hclean ▸ hbyte), ihclean⟩

theorem numberAt_of_drop_eq (h : data.drop offset = (Argument.array items).tail ++ rest)
    (hcount : items.length < uint256Bound) : numberAt data offset = items.length := by
  rw [numberAt, slice, h, Argument.tail, List.append_assoc, List.take_left' (length_wordBytes _),
    toNat_wordBytes hcount]

/-- Where the tail of an array stands behind the head, the array is held there. -/
theorem holdsArray_of_drop_eq {headSize : Nat}
    (h : data.drop offset = (Argument.array items).tail ++ rest)
    (hcount : items.length < uint256Bound) (hbehind : headSize ≤ offset) :
    HoldsArray data headSize offset ∧ itemBytes data offset = items.map Address.bytes := by
  have hlength : data.length - offset = 32 + 32 * items.length + rest.length := by
    rw [← List.length_drop, h]
    simp only [Argument.tail, List.length_append, length_wordBytes, length_flatMap_addressWord]
  have hnumber := numberAt_of_drop_eq h hcount
  have hitems : data.drop (offset + 32) = items.flatMap addressWord ++ rest := by
    rw [← List.drop_drop, h, Argument.tail, List.append_assoc,
      List.drop_left' (length_wordBytes _)]
  obtain ⟨hclean, hbytes⟩ := items_of_drop_eq hitems
  rw [itemBytes, itemPositions, hnumber]
  refine ⟨⟨hbehind, by omega, by omega, by omega, ?_⟩, hbytes⟩
  rwa [itemPositions, hnumber]

end ValidatorReader.Abi
