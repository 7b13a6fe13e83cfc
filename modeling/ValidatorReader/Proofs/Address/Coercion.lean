import ValidatorReader.Address.Coercion
import ValidatorReader.Proofs.Attempt

/-!
# What is taken for an address

An address, a text that spells one and the twenty bytes of one are taken for it. Whatever else comes
is made into bytes before its length is looked at, and two more kinds of values pass in that way: the
number twenty, which gives as many zeros, and a collection of twenty numbers that fit into bytes.
All other values are refused.
-/

namespace ValidatorReader.Address

open Attempt

variable {a : Address} {v item : Value} {items : List Value} {bytes : List UInt8} {byte : UInt8}
  {n : Int} {e : Failure}

/-- The values that stand for an address: itself, a text that spells it, and its bytes. -/
inductive Represents (a : Address) : Value → Prop
  | address : Represents a (.address a)
  | text {s : String} (spelled : ofText s = .ok a) : Represents a (.text s)
  | bytes : Represents a (.bytes a.bytes)
  | byteArray : Represents a (.byteArray a.bytes)

/-- Whether an item counts as a byte: a number in its range, or a truth value as zero or one. -/
def CountsAs (item : Value) (byte : UInt8) : Prop :=
  item.integer? = some (byte.toNat : Int)

/-- The values that stand for no address but are made into the bytes of one. -/
inductive Fills (a : Address) : Value → Prop
  | zeros (zero : a.bytes = List.replicate 20 0) : Fills a (.int 20)
  | list {items : List Value} (counted : List.Forall₂ CountsAs items a.bytes) : Fills a (.list items)
  | tuple {items : List Value} (counted : List.Forall₂ CountsAs items a.bytes) :
    Fills a (.tuple items)

/-! ## Bytes, counts and items -/

/-- Bytes are an address exactly if there are as many as it has. -/
theorem ofByteList_eq_ok_iff : ofByteList bytes = .ok a ↔ bytes = a.bytes := by
  rw [ofByteList, mapError_eq_ok_iff]
  constructor
  · intro h
    unfold ofBytes at h
    split at h
    · rw [← Except.ok.inj h]
    · cases h
  · rintro rfl
    exact ofBytes_bytes a

theorem exists_ofByteList_iff : (∃ a, ofByteList bytes = .ok a) ↔ bytes.length = 20 := by
  simp only [ofByteList_eq_ok_iff]
  constructor
  · rintro ⟨a, rfl⟩
    exact a.length_bytes
  · intro h
    exact ⟨⟨bytes, h⟩, rfl⟩

/-- A count gives an address only if it is twenty: every other number of zeros is refused, most of
them for their number and the rest before any byte is made. -/
theorem ofZeros_eq_ok_iff : ofZeros n = .ok a ↔ n = 20 ∧ a.bytes = List.replicate 20 0 := by
  by_cases hn : n = 20
  · subst hn
    have hzeros : ofZeros 20 = ofByteList (List.replicate 20 0) := rfl
    rw [hzeros, ofByteList_eq_ok_iff, eq_comm]
    simp
  · unfold ofZeros
    simp only [hn, if_false, false_and, iff_false]
    split_ifs <;> exact nofun

/-- An item of a sequence becomes a byte exactly if it counts as an integer in its range. -/
theorem itemByte_eq_ok_iff : itemByte item = .ok byte ↔ CountsAs item byte := by
  have hbyte := byte.toNat_lt
  unfold itemByte CountsAs
  cases item.integer? with
  | none => simp
  | some n =>
    simp only [Option.some.injEq]
    split_ifs with hrange
    · rw [Except.ok.injEq]
      constructor
      · rintro rfl
        have hn : n.toNat < 256 := by omega
        rw [UInt8.toNat_ofNat_of_lt' hn]
        omega
      · rintro rfl
        simp
    · simp only [false_iff]
      rintro rfl
      omega

theorem mapM_itemByte_bind_eq_ok_iff :
    items.mapM itemByte >>= ofByteList = .ok a ↔ List.Forall₂ CountsAs items a.bytes := by
  simp only [bind_eq_ok_iff, mapM_eq_ok_iff, ofByteList_eq_ok_iff, exists_eq_right,
    itemByte_eq_ok_iff]

/-- Texts count as no bytes, so the keys of a dictionary make no address. -/
theorem not_forall₂_countsAs_text (names : List String) :
    ¬ List.Forall₂ CountsAs (names.map .text) a.bytes := by
  intro h
  have hlength := a.length_bytes
  generalize a.bytes = bytes at h hlength
  rw [List.forall₂_map_left_iff] at h
  cases h with
  | nil => cases hlength
  | cons hcounts _ => cases hcounts

/-! ## Values of all kinds -/

/-- What is taken for an address either represents it or stands for its bytes in another way. -/
theorem coerce_eq_ok_iff : coerce v = .ok a ↔ Represents a v ∨ Fills a v := by
  constructor
  · intro h
    cases v with
    | null => cases h
    | abiType t => cases h
    | address b =>
      obtain rfl : b = a := Except.ok.inj h
      exact .inl .address
    | text s => exact .inl (.text (mapError_eq_ok_iff.1 h))
    | bytes b =>
      obtain rfl : b = a.bytes := ofByteList_eq_ok_iff.1 h
      exact .inl .bytes
    | byteArray b =>
      obtain rfl : b = a.bytes := ofByteList_eq_ok_iff.1 h
      exact .inl .byteArray
    | int n =>
      obtain ⟨rfl, hzero⟩ := ofZeros_eq_ok_iff.1 h
      exact .inr (.zeros hzero)
    | bool b =>
      obtain ⟨hcount, _⟩ := ofZeros_eq_ok_iff.1 h
      cases b <;> cases hcount
    | list items => exact .inr (.list (mapM_itemByte_bind_eq_ok_iff.1 h))
    | tuple items => exact .inr (.tuple (mapM_itemByte_bind_eq_ok_iff.1 h))
    | dict entries =>
      have hkeys : (entries.map fun entry ↦ Value.text entry.1) =
          (entries.map Prod.fst).map .text := by simp
      rw [coerce, mapM_itemByte_bind_eq_ok_iff, hkeys] at h
      exact absurd h (not_forall₂_countsAs_text _)
  · rintro (hrepresents | hfills)
    · cases hrepresents with
      | address => rfl
      | text spelled => exact mapError_eq_ok_iff.2 spelled
      | bytes => exact ofByteList_eq_ok_iff.2 rfl
      | byteArray => exact ofByteList_eq_ok_iff.2 rfl
    · cases hfills with
      | zeros zero => exact ofZeros_eq_ok_iff.2 ⟨rfl, zero⟩
      | list counted => exact mapM_itemByte_bind_eq_ok_iff.2 counted
      | tuple counted => exact mapM_itemByte_bind_eq_ok_iff.2 counted

theorem Fills.not_represents (h : Fills a v) (b : Address) : ¬ Represents b v := by
  cases h <;> exact nofun

/-- Whether a value is taken for an address exactly if it stands for one. -/
def TakenAsMeant (v : Value) : Prop :=
  (∃ a, coerce v = .ok a) ↔ ∃ a, Represents a v

/-- The values that are made into the bytes of an address are the only ones that should have been
refused. -/
theorem takenAsMeant_iff : TakenAsMeant v ↔ ∀ a, ¬ Fills a v := by
  unfold TakenAsMeant
  simp only [coerce_eq_ok_iff]
  constructor
  · intro hmeant a hfills
    obtain ⟨b, hrepresents⟩ := hmeant.1 ⟨a, .inr hfills⟩
    exact hfills.not_represents b hrepresents
  · intro hnone
    have h (a : Address) : Represents a v ∨ Fills a v ↔ Represents a v := or_iff_left (hnone a)
    exact exists_congr h

/-- A value is taken for an address as it is meant unless it is made into the bytes of one; it is
refused if neither of the two holds of any address. Byte strings pass if there are twenty of them, and
of all numbers only twenty passes. -/
theorem coerce_takes (v : Value) (bytes : List UInt8) (n : Int) :
    (TakenAsMeant v ↔ ∀ a, ¬ Fills a v) ∧
    (∀ a, coerce v = .ok a ↔ Represents a v ∨ Fills a v) ∧
    ((∃ e, coerce v = .error e) ↔ ∀ a, ¬ Represents a v ∧ ¬ Fills a v) ∧
    ((∃ a, coerce (.bytes bytes) = .ok a) ↔ bytes.length = 20) ∧
    ((∃ a, coerce (.byteArray bytes) = .ok a) ↔ bytes.length = 20) ∧
    ((∃ a, coerce (.int n) = .ok a) ↔ n = 20) := by
  refine ⟨takenAsMeant_iff, fun a ↦ coerce_eq_ok_iff, ?_, exists_ofByteList_iff,
    exists_ofByteList_iff, ?_⟩
  · simp only [← not_or, ← coerce_eq_ok_iff]
    cases coerce v <;> simp
  · constructor
    · rintro ⟨a, h⟩
      exact (ofZeros_eq_ok_iff.1 h).1
    · rintro rfl
      exact ⟨⟨List.replicate 20 0, rfl⟩, rfl⟩

/-- The number twenty stands for no address and is taken for one. -/
theorem coerce_twenty :
    (∃ a, coerce (.int 20) = .ok a) ∧ (∀ a, ¬ Represents a (.int 20)) ∧
    ¬ TakenAsMeant (.int 20) := by
  have htaken : ∃ a, coerce (.int 20) = .ok a := ⟨⟨List.replicate 20 0, rfl⟩, rfl⟩
  have hnone : ∀ a, ¬ Represents a (.int 20) := nofun
  refine ⟨htaken, hnone, ?_⟩
  intro hmeant
  obtain ⟨a, ha⟩ := hmeant.1 htaken
  exact hnone a ha

end ValidatorReader.Address
