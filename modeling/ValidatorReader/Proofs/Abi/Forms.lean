import ValidatorReader.Proofs.Abi.Output
import ValidatorReader.Proofs.Address.Cased

/-!
# Addresses in all their forms

An address may be written in lower case, with the case of its letters as a checksum, or as its bytes.
Each form is read back as the address, and a list of addresses has one encoding in whatever forms its
items are given. An encoder that compares the checksum of a text in mixed case takes the checksummed form
as well as one that does not: it is the very text with which the encoder compares. No property of the
digest behind the checksum is needed but its size.
-/

namespace ValidatorReader

/-- Whether a digest has 32 bytes. -/
def IsDigest (hash : List UInt8 → List UInt8) : Prop :=
  ∀ message, (hash message).length = 32

namespace Abi

open Attempt

variable {hash : List UInt8 → List UInt8} {check : AddressCheck} {a : Address} {as : List Address}
  {item : Value}

/-- The forms of an address: lower-case text, text with the case of its letters as the checksum by a
digest gives it, and bytes. -/
inductive Writes (hash : List UInt8 → List UInt8) (a : Address) : Value → Prop
  | hex : Writes hash a (.text a.toHex)
  | checksum : Writes hash a (.text (a.checksumBy hash))
  | bytes : Writes hash a (.bytes a.bytes)

/-- The encoders whose checksum, if they compare it at all, is the one of a digest. -/
inductive Compares (hash : List UInt8 → List UInt8) : AddressCheck → Prop
  | anyCase : Compares hash .anyCase
  | checksum : Compares hash (.checksum hash)

/-! ## What the encoder takes -/

theorem addressBytes_of_digits {s : String} {digits : List Char}
    (hs : s.toList = '0' :: 'x' :: digits) (hdigits : ∀ c ∈ digits, (Bytes.hexValue? c).isSome = true)
    (hbytes : Bytes.ofHexChars? digits = some a.bytes) : addressBytes (.text s) = a.bytes := by
  have hpart : Address.digitsPart s.toList = digits := by
    rw [hs]
    rfl
  have hall : digits.all (fun c ↦ (Bytes.hexValue? c).isSome) = true := List.all_eq_true.2 hdigits
  simp only [addressBytes, hpart]
  rw [if_pos hall, hbytes, Option.getD_some]

/-- No digit of the lower-case form is an upper-case letter. -/
theorem inOneCase_hexChars (bytes : List UInt8) : inOneCase (Bytes.hexChars bytes) = true := by
  have hlower : ∀ n < 16, (!(Bytes.hexDigit n).isUpper) = true := by decide
  rw [inOneCase, Bool.or_eq_true, List.all_eq_true]
  left
  intro c hc
  obtain ⟨n, hn, rfl⟩ := Bytes.exists_hexDigit_of_mem_hexChars hc
  exact hlower n hn

theorem toList_toHex (a : Address) : a.toHex.toList = '0' :: 'x' :: Bytes.hexChars a.bytes := by
  simp [Address.toHex, Bytes.toHex]

/-- Whichever way an address is written, what is written stands for its bytes. -/
theorem Writes.addressBytes_eq (hdigest : IsDigest hash) (h : Writes hash a item) :
    addressBytes item = a.bytes := by
  cases h with
  | hex =>
    apply addressBytes_of_digits (toList_toHex a)
    · intro c hc
      obtain ⟨n, hn, rfl⟩ := Bytes.exists_hexDigit_of_mem_hexChars hc
      exact Option.isSome_of_eq_some (Bytes.hexValue?_hexDigit n hn)
    · exact Bytes.ofHexChars?_hexChars a.bytes
  | checksum =>
    apply addressBytes_of_digits
    · exact String.toList_ofList
    · exact fun c hc ↦ Address.isSome_hexValue?_of_mem_casedChars (hdigest _) hc
    · exact Address.ofHexChars?_casedChars (hdigest _) a
  | bytes => rfl

/-- Lower case is one case, and the checksummed form is what mixed case is compared with. -/
theorem Writes.takes (hcheck : Compares hash check) (h : Writes hash a item) :
    check.takes item a = true := by
  cases hcheck with
  | anyCase => rfl
  | checksum =>
    cases h with
    | hex =>
      have hpart : Address.digitsPart a.toHex.toList = Bytes.hexChars a.bytes := by
        rw [toList_toHex]
        rfl
      rw [AddressCheck.takes, hpart, inOneCase_hexChars, Bool.true_or]
    | checksum => rw [AddressCheck.takes, beq_self_eq_true, Bool.or_true]
    | bytes => rfl

theorem Writes.addressItem_eq (hdigest : IsDigest hash) (hcheck : Compares hash check)
    (h : Writes hash a item) : addressItem check item = .ok a :=
  addressItem_eq_ok_iff.2 ⟨h.addressBytes_eq hdigest, h.takes hcheck⟩

/-- Each form of an address is read back as the address. -/
theorem Writes.isItemAddress (hdigest : IsDigest hash) (h : Writes hash a item) :
    IsItemAddress item a :=
  isItemAddress_of_addressItem (h.addressItem_eq hdigest .anyCase)

/-- What mixed case is refused for: it is not the checksummed form of the address that it is read as. -/
theorem takes_of_mixedCase {s : String} (h : inOneCase (Address.digitsPart s.toList) = false) :
    (AddressCheck.checksum hash).takes (.text s) a = true ↔ s = a.checksumBy hash := by
  rw [AddressCheck.takes, h, Bool.false_or, beq_iff_eq]

/-! ## All forms at once -/

/-- Each form of an address is read back as the address, and in lower case the checksummed one is the
lower-case one. A list of addresses has one encoding in whatever forms they are given one by one, for an
encoder that compares checksums and for one that does not, and it decodes to the list if the number of
the items fits the word that is written for it. The digest may give any digits. -/
theorem encodeValues_forms (hdigest : IsDigest hash) :
    (∀ a item, Writes hash a item → IsItemAddress item a) ∧
    (∀ a : Address, Text.lower (a.checksumBy hash) = a.toHex) ∧
    ∀ as, ∃ encoding,
      (∀ check, Compares hash check → ∀ items, List.Forall₂ (Writes hash) as items →
        encodeValues ([.addressArray].map .abiType) (.list [.list items]) check = .ok encoding) ∧
      (as.length < 2 ^ 256 →
        decodeValues ([.addressArray].map .abiType) encoding = .ok [.addresses as]) := by
  refine ⟨fun a item h ↦ h.isItemAddress hdigest, fun a ↦ Address.lower_cased (hdigest _) a, ?_⟩
  intro as
  refine ⟨encodeArguments [.array as], ?_, ?_⟩
  · intro check hcheck items h
    apply encodeValues_of_addressItems
    rw [mapM_eq_ok_iff]
    apply List.Forall₂.flip
    exact h.imp fun _ _ hwrites ↦ hwrites.addressItem_eq hdigest hcheck
  · intro h
    rw [decodeValues_map_abiType]
    exact decode_array h

/-- An address whose digits are all letters. -/
def lettered : Address := ⟨List.replicate 20 0xab, rfl⟩

/-- The checksummed form is in mixed case, and an encoder that compares it takes it. -/
theorem encodeValues_three_forms :
    IsDigest Keccak.digest ∧
    inOneCase (Address.digitsPart lettered.toChecksum.toList) = false ∧
    ∃ encoding, encodeValues ([.addressArray].map .abiType) (.list [.list
        [.text lettered.toChecksum, .bytes lettered.bytes, .text lettered.toHex]])
        (.checksum Keccak.digest) = .ok encoding ∧
      decodeValues ([.addressArray].map .abiType) encoding =
        .ok [.addresses [lettered, lettered, lettered]] := by
  have hdigest : IsDigest Keccak.digest := Keccak.length_digest
  obtain ⟨_, _, hlists⟩ := encodeValues_forms hdigest
  obtain ⟨encoding, hencode, hdecode⟩ := hlists [lettered, lettered, lettered]
  have hforms : List.Forall₂ (Writes Keccak.digest) [lettered, lettered, lettered]
      [.text lettered.toChecksum, .bytes lettered.bytes, .text lettered.toHex] :=
    .cons .checksum (.cons .bytes (.cons .hex .nil))
  exact ⟨hdigest, by decide +kernel, encoding, hencode _ .checksum _ hforms, hdecode (by decide)⟩

end Abi

end ValidatorReader
