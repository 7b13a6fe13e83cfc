import ValidatorReader.Proofs.Address.Grammar
import ValidatorReader.Text.Case

/-!
# Letters in either case

The form of an address in which a digest decides on the case of each letter has the digits of the
lower-case form: forty of them, each with the same value, whatever the digest is. So it is read as the
address, and in lower case it is the lower-case form.
-/

namespace ValidatorReader

variable {digest : List UInt8} {c : Char} {a : Address}

/-! ## Single digits -/

namespace Bytes

theorem hexValue?_toUpper_hexDigit : ∀ n < 16, hexValue? (hexDigit n).toUpper = some n := by
  decide

theorem lowerChar_hexDigit : ∀ n < 16, Text.lowerChar (hexDigit n) = [hexDigit n] := by
  decide +kernel

theorem lowerChar_toUpper_hexDigit :
    ∀ n < 16, Text.lowerChar (hexDigit n).toUpper = [hexDigit n] := by
  decide +kernel

theorem exists_hexDigit_of_mem_hexChars {bytes : List UInt8} (h : c ∈ hexChars bytes) :
    ∃ n < 16, c = hexDigit n := by
  obtain ⟨b, _, hc⟩ := List.mem_flatMap.1 h
  have hb : b.toNat < 256 := b.toNat_lt
  simp only [List.mem_cons, List.not_mem_nil, or_false] at hc
  rcases hc with rfl | rfl
  · exact ⟨b.toNat / 16, by omega, rfl⟩
  · exact ⟨b.toNat % 16, by omega, rfl⟩

end Bytes

/-! ## All digits -/

namespace Address

theorem map_zipWith_of_forall {α β γ δ : Type} {f : α → β → γ} {g : γ → δ} {k : α → δ}
    {xs : List α} {ys : List β} (h : ∀ x ∈ xs, ∀ y, g (f x y) = k x)
    (hlength : xs.length ≤ ys.length) : (List.zipWith f xs ys).map g = xs.map k := by
  induction xs generalizing ys with
  | nil => rfl
  | cons x xs ih =>
    cases ys with
    | nil => exact absurd hlength (by simp)
    | cons y ys =>
      rw [List.zipWith_cons_cons, List.map_cons, List.map_cons, h x List.mem_cons_self y,
        ih (fun x hx ↦ h x (List.mem_cons_of_mem _ hx)) (Nat.le_of_succ_le_succ hlength)]

theorem length_nibbles (bytes : List UInt8) : (nibbles bytes).length = 2 * bytes.length := by
  simp [nibbles, Nat.mul_comm]

theorem length_hexChars_le_nibbles (hdigest : digest.length = 32) (a : Address) :
    (Bytes.hexChars a.bytes).length ≤ (nibbles digest).length := by
  rw [Bytes.length_hexChars, length_nibbles, a.length_bytes, hdigest]
  decide

theorem length_casedChars (hdigest : digest.length = 32) (a : Address) :
    (a.casedChars digest).length = 40 := by
  rw [casedChars, List.length_zipWith, min_eq_left (length_hexChars_le_nibbles hdigest a),
    Bytes.length_hexChars, a.length_bytes]

/-- The case of a digit does not change its value. -/
theorem map_hexValue?_casedChars (hdigest : digest.length = 32) (a : Address) :
    (a.casedChars digest).map Bytes.hexValue? = (Bytes.hexChars a.bytes).map Bytes.hexValue? := by
  apply map_zipWith_of_forall _ (length_hexChars_le_nibbles hdigest a)
  intro c hc half
  obtain ⟨n, hn, rfl⟩ := Bytes.exists_hexDigit_of_mem_hexChars hc
  split
  · rw [Bytes.hexValue?_toUpper_hexDigit n hn, Bytes.hexValue?_hexDigit n hn]
  · rfl

theorem isSome_hexValue?_of_mem_casedChars (hdigest : digest.length = 32)
    (h : c ∈ a.casedChars digest) : (Bytes.hexValue? c).isSome = true := by
  have hvalue : Bytes.hexValue? c ∈ (Bytes.hexChars a.bytes).map Bytes.hexValue? := by
    rw [← map_hexValue?_casedChars hdigest]
    exact List.mem_map_of_mem h
  obtain ⟨d, hd, hsame⟩ := List.mem_map.1 hvalue
  obtain ⟨n, hn, rfl⟩ := Bytes.exists_hexDigit_of_mem_hexChars hd
  rw [← hsame, Bytes.hexValue?_hexDigit n hn]
  rfl

/-- Whatever the digest is, the digits are read as the bytes of the address. -/
theorem ofHexChars?_casedChars (hdigest : digest.length = 32) (a : Address) :
    Bytes.ofHexChars? (a.casedChars digest) = some a.bytes := by
  have hdigits : ∀ c ∈ a.casedChars digest, (Bytes.hexValue? c).isSome = true :=
    fun c hc ↦ isSome_hexValue?_of_mem_casedChars hdigest hc
  have hlength := length_casedChars hdigest a
  obtain ⟨bytes, hbytes⟩ := Bytes.exists_ofHexChars? hdigits (by rw [hlength]; decide)
  have hsize : bytes.length = a.bytes.length := by
    have htwo := Bytes.length_eq_of_ofHexChars? hdigits hbytes
    rw [a.length_bytes]
    omega
  have hnumber : Bytes.toNat bytes = Bytes.toNat a.bytes :=
    calc
      Bytes.toNat bytes = Bytes.hexNumber (a.casedChars digest) := Bytes.toNat_of_ofHexChars? hbytes
      _ = Bytes.hexNumber (Bytes.hexChars a.bytes) := by
        have hvalues (digits : List Char) : digits.filterMap Bytes.hexValue? =
            (digits.map Bytes.hexValue?).filterMap id := by rw [List.filterMap_map]; rfl
        rw [Bytes.hexNumber, hvalues, map_hexValue?_casedChars hdigest, ← hvalues, Bytes.hexNumber]
      _ = Bytes.toNat a.bytes :=
        (Bytes.toNat_of_ofHexChars? (Bytes.ofHexChars?_hexChars a.bytes)).symm
  rw [hbytes, ← Bytes.ofNat_toNat bytes, ← Bytes.ofNat_toNat a.bytes, hsize, hnumber]

/-- Whatever the digest is, the form is read as the address. -/
theorem ofText_cased (hdigest : digest.length = 32) (a : Address) :
    ofText (a.cased digest) = .ok a := by
  have hlength : (a.casedChars digest).length = 40 := length_casedChars hdigest a
  have hpart : digitsPart (a.cased digest).toList = a.casedChars digest := by
    rw [cased, String.toList_ofList]
    rfl
  have hne : a.casedChars digest ≠ [] := by
    rw [← List.length_pos_iff, hlength]
    decide
  have hfilled : filled (a.casedChars digest) = a.casedChars digest := by
    rw [filled, hlength]
    rfl
  rw [ofText_of_short (by rw [hpart]; exact hne) (by rw [hpart, hlength]), hpart, hfilled,
    ofHexChars?_casedChars hdigest]
  exact ofBytes_bytes a

theorem ofText_toChecksum (a : Address) : ofText a.toChecksum = .ok a :=
  ofText_cased (Keccak.length_digest _) a

/-- Two addresses never share a checksummed text, though their digests might agree. -/
theorem toChecksum_injective : Function.Injective toChecksum := by
  intro a b h
  have haddress : ofText a.toChecksum = ofText b.toChecksum := by rw [h]
  rw [ofText_toChecksum, ofText_toChecksum] at haddress
  exact Except.ok.inj haddress

/-- In lower case it is the lower-case form. -/
theorem lower_cased (hdigest : digest.length = 32) (a : Address) :
    Text.lower (a.cased digest) = a.toHex := by
  have hmap : (a.casedChars digest).map Text.lowerChar =
      (Bytes.hexChars a.bytes).map fun c ↦ [c] := by
    apply map_zipWith_of_forall _ (length_hexChars_le_nibbles hdigest a)
    intro c hc half
    obtain ⟨n, hn, rfl⟩ := Bytes.exists_hexDigit_of_mem_hexChars hc
    split
    · exact Bytes.lowerChar_toUpper_hexDigit n hn
    · exact Bytes.lowerChar_hexDigit n hn
  have hdigits : (a.casedChars digest).flatMap Text.lowerChar = Bytes.hexChars a.bytes := by
    rw [List.flatMap_def, hmap, ← List.flatMap_def, List.flatMap_singleton']
  have hmark : ('0' :: 'x' :: a.casedChars digest).flatMap Text.lowerChar =
      '0' :: 'x' :: Bytes.hexChars a.bytes := by
    rw [List.flatMap_cons, List.flatMap_cons, hdigits]
    rfl
  rw [Text.lower, cased, String.toList_ofList, hmark, toHex, Bytes.toHex, ← String.toList_inj]
  simp

end Address

end ValidatorReader
