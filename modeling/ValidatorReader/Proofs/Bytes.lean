import Mathlib
import ValidatorReader.Bytes.BigEndian

/-!
# Numbers and their bytes

The big-endian digits of a number that fits give the number back, and no bytes stand for a number
that needs more of them.
-/

namespace ValidatorReader.Bytes

/-- A number that fits is read back from its bytes. -/
theorem toNat_ofNat {size n : Nat} (h : n < 256 ^ size) : toNat (ofNat size n) = n := by
  induction size generalizing n with
  | zero =>
    have hzero : n = 0 := Nat.lt_one_iff.1 h
    rw [hzero]
    rfl
  | succ size ih =>
    have hquotient : n / 256 < 256 ^ size := by
      rw [Nat.pow_succ, Nat.mul_comm] at h
      exact Nat.div_lt_of_lt_mul h
    have hlast : (UInt8.ofNat (n % 256)).toNat = n % 256 :=
      UInt8.toNat_ofNat_of_lt' (Nat.mod_lt n (by decide))
    rw [ofNat, toNat_concat, ih hquotient, hlast]
    exact Nat.div_add_mod n 256

/-- Bytes stand for a number below the power of 256 that their count gives. -/
theorem toNat_lt (bytes : List UInt8) : toNat bytes < 256 ^ bytes.length := by
  induction bytes using List.reverseRecOn with
  | nil => simp
  | append_singleton bytes b ih =>
    have hlast : b.toNat < 256 := b.toNat_lt
    rw [toNat_concat, List.length_append, List.length_singleton, Nat.pow_succ]
    omega

/-- Bytes are the digits of their number. -/
theorem ofNat_toNat (bytes : List UInt8) : ofNat bytes.length (toNat bytes) = bytes := by
  induction bytes using List.reverseRecOn with
  | nil => rfl
  | append_singleton bytes b ih =>
    have hlast : b.toNat < 256 := b.toNat_lt
    have hquotient : (256 * toNat bytes + b.toNat) / 256 = toNat bytes := by omega
    have hremainder : (256 * toNat bytes + b.toNat) % 256 = b.toNat := by omega
    rw [List.length_append, List.length_singleton, ofNat, toNat_concat, hquotient, hremainder, ih,
      UInt8.ofNat_toNat]

end ValidatorReader.Bytes
