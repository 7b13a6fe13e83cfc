import ValidatorReader.Node.Transaction
import ValidatorReader.Proofs.Address.Cased
import ValidatorReader.Proofs.Contract.Checks

/-!
# Calls and their transaction objects

A transaction object has an entry for the recipient, one for the data, and one for each further
parameter that is set: a gas limit is set unless it is negative, and what is zero is set. So two calls
have the same object exactly if they agree in all parameters, up to the choice of a negative limit.
-/

namespace ValidatorReader

namespace Bytes

theorem hexChars_injective : Function.Injective hexChars := by
  intro bytes bytes' h
  have hread : ofHexChars? (hexChars bytes) = ofHexChars? (hexChars bytes') := by rw [h]
  rw [ofHexChars?_hexChars, ofHexChars?_hexChars] at hread
  exact Option.some.inj hread

theorem toHex_injective : Function.Injective toHex := by
  intro bytes bytes' h
  have hchars : (toHex bytes).toList = (toHex bytes').toList := by rw [h]
  rw [toHex, toHex, String.toList_ofList, String.toList_ofList] at hchars
  exact hexChars_injective hchars

end Bytes

variable {p q : CallParameters} {name key : String} {value : Option Value} {entry : String × Value}

/-! ## Lookups -/

theorem Entries.get?_append (entries others : Entries) (key : String) :
    get? (entries ++ others) key = (entries.get? key).or (get? others key) := by
  rw [get?, List.find?_append, Option.map_or]
  rfl

theorem get?_optionalEntry (name : String) (value : Option Value) (key : String) :
    Entries.get? (optionalEntry name value) key = if name = key then value else none := by
  cases value with
  | none => simp [optionalEntry, Entries.get?_nil]
  | some v => simp [optionalEntry, Entries.get?_cons, Entries.get?_nil]

theorem mem_optionalEntry_iff :
    entry ∈ optionalEntry name value ↔ ∃ v, value = some v ∧ entry = (name, v) := by
  cases value <;> simp [optionalEntry]

theorem names_optionalEntry_sublist (name : String) (value : Option Value) :
    (Entries.names (optionalEntry name value)).Sublist [name] := by
  cases value <;> simp [optionalEntry, Entries.names]

namespace CallParameters

/-- No name is used twice. -/
theorem nodup_names_transaction (p : CallParameters) : p.transaction.names.Nodup := by
  have hnames : p.transaction.names.Sublist
      (["to", "data"] ++ ["from"] ++ ["gas"] ++ ["gasPrice"] ++ ["value"]) := by
    unfold Entries.names transaction
    simp only [List.map_append]
    exact ((((List.Sublist.refl _).append (names_optionalEntry_sublist _ _)).append
      (names_optionalEntry_sublist _ _)).append (names_optionalEntry_sublist _ _)).append
      (names_optionalEntry_sublist _ _)
  exact hnames.nodup (by decide)

/-! ## Entries -/

/-- The entries of the transaction object of a call. -/
inductive IsEntry (p : CallParameters) : String × Value → Prop
  | recipient : IsEntry p ("to", .text p.recipient.toChecksum)
  | data : IsEntry p ("data", .text ("0x" ++ Bytes.toHex p.payload))
  | sender {a : Address} (set : p.sender = some a) : IsEntry p ("from", .text a.toChecksum)
  | gas (set : 0 ≤ p.gasLimit) : IsEntry p ("gas", .int p.gasLimit)
  | gasPrice {n : ℤ} (set : p.gasPrice = some n) : IsEntry p ("gasPrice", .int n)
  | value {n : ℤ} (set : p.value = some n) : IsEntry p ("value", .int n)

/-- The entries of a transaction, each under its own condition. -/
theorem mem_transaction_iff : entry ∈ p.transaction ↔ IsEntry p entry := by
  unfold transaction
  simp only [List.mem_append, mem_optionalEntry_iff, List.mem_cons, List.not_mem_nil, or_false]
  constructor
  · rintro (((((rfl | rfl) | ⟨v, hv, rfl⟩) | ⟨v, hv, rfl⟩) | ⟨v, hv, rfl⟩) | ⟨v, hv, rfl⟩)
    · exact .recipient
    · exact .data
    · obtain ⟨a, ha, rfl⟩ := Option.map_eq_some_iff.1 hv
      exact .sender ha
    · obtain ⟨hset, hgas⟩ := Option.ite_none_right_eq_some.1 hv
      obtain rfl := Option.some.inj hgas
      exact .gas hset
    · obtain ⟨n, hn, rfl⟩ := Option.map_eq_some_iff.1 hv
      exact .gasPrice hn
    · obtain ⟨n, hn, rfl⟩ := Option.map_eq_some_iff.1 hv
      exact .value hn
  · intro h
    cases h with
    | recipient => simp
    | data => simp
    | sender set => simp [set]
    | gas set => simp [set]
    | gasPrice set => simp [set]
    | value set => simp [set]

/-! ## Calls -/

/-- Whether two calls ask for the same: all negative gas limits mean that there is no limit. -/
structure SameCall (p q : CallParameters) : Prop where
  recipient : p.recipient = q.recipient
  sender : p.sender = q.sender
  payload : p.payload = q.payload
  gasPrice : p.gasPrice = q.gasPrice
  value : p.value = q.value
  gasLimit : p.gasLimit = q.gasLimit ∨ p.gasLimit < 0 ∧ q.gasLimit < 0

/-- The parameters of a call are read back from its transaction object, name by name. -/
theorem sameCall_of_get? (h : ∀ key, p.transaction.get? key = q.transaction.get? key) :
    SameCall p q := by
  simp only [transaction, Entries.get?_append, get?_optionalEntry, Entries.get?_cons,
    Entries.get?_nil] at h
  refine ⟨?recipient, ?sender, ?payload, ?gasPrice, ?value, ?gasLimit⟩
  case recipient =>
    have hto : Value.text p.recipient.toChecksum = .text q.recipient.toChecksum := by
      simpa using h "to"
    exact Address.toChecksum_injective (Value.text.inj hto)
  case sender =>
    have hfrom : (p.sender.map fun a ↦ Value.text a.toChecksum) =
        q.sender.map fun a ↦ .text a.toChecksum := by simpa using h "from"
    apply Option.map_injective _ hfrom
    intro a b hab
    exact Address.toChecksum_injective (Value.text.inj hab)
  case payload =>
    have hdata : Bytes.toHex p.payload = Bytes.toHex q.payload := by simpa using h "data"
    exact Bytes.toHex_injective hdata
  case gasPrice =>
    have hprice : p.gasPrice.map Value.int = q.gasPrice.map .int := by simpa using h "gasPrice"
    exact Option.map_injective (fun _ _ ↦ Value.int.inj) hprice
  case value =>
    have hvalue : p.value.map Value.int = q.value.map .int := by simpa using h "value"
    exact Option.map_injective (fun _ _ ↦ Value.int.inj) hvalue
  case gasLimit =>
    have hgas : (if 0 ≤ p.gasLimit then some (Value.int p.gasLimit) else none) =
        if 0 ≤ q.gasLimit then some (.int q.gasLimit) else none := by simpa using h "gas"
    by_cases hp : 0 ≤ p.gasLimit <;> by_cases hq : 0 ≤ q.gasLimit
    · rw [if_pos hp, if_pos hq] at hgas
      exact .inl (Value.int.inj (Option.some.inj hgas))
    · rw [if_pos hp, if_neg hq] at hgas
      cases hgas
    · rw [if_neg hp, if_pos hq] at hgas
      cases hgas
    · exact .inr ⟨not_le.1 hp, not_le.1 hq⟩

/-- Calls that agree in the fields that are sent are sent alike. -/
theorem SameCall.transaction_eq (h : SameCall p q) : p.transaction = q.transaction := by
  have hgas : (if 0 ≤ p.gasLimit then some (Value.int p.gasLimit) else none) =
      if 0 ≤ q.gasLimit then some (.int q.gasLimit) else none := by
    rcases h.gasLimit with hsame | ⟨hp, hq⟩
    · rw [hsame]
    · rw [if_neg hp.not_ge, if_neg hq.not_ge]
  simp only [transaction, h.recipient, h.sender, h.payload, h.gasPrice, h.value, hgas]

/-- Two calls have the same transaction object, as a list and entry by entry, exactly if they are the
same call. The object has no name twice, and no entries but those of the parameters that are set. -/
theorem transaction_determines_call (p q : CallParameters) :
    (p.transaction = q.transaction ↔ SameCall p q) ∧
    ((∀ key, p.transaction.get? key = q.transaction.get? key) ↔ SameCall p q) ∧
    p.transaction.names.Nodup ∧ ∀ entry, entry ∈ p.transaction ↔ IsEntry p entry := by
  refine ⟨⟨?_, SameCall.transaction_eq⟩, ⟨sameCall_of_get?, ?_⟩, nodup_names_transaction p,
    fun _ ↦ mem_transaction_iff⟩
  · intro heq
    apply sameCall_of_get?
    intro key
    rw [heq]
  · intro hsame key
    rw [hsame.transaction_eq]

end CallParameters

end ValidatorReader
