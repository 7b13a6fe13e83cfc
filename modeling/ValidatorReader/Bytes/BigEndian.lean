/-!
# Big-endian words

Natural numbers as bytes, the most significant byte first.
-/

namespace ValidatorReader.Bytes

/-- The number whose base-256 digits are the bytes, most significant first. -/
def toNat (bytes : List UInt8) : Nat :=
  bytes.foldl (fun n b => 256 * n + b.toNat) 0

/-- The last `size` base-256 digits of a number, most significant first. -/
def ofNat : Nat → Nat → List UInt8
  | 0, _ => []
  | size + 1, n => ofNat size (n / 256) ++ [UInt8.ofNat (n % 256)]

@[simp] theorem length_ofNat (size n : Nat) : (ofNat size n).length = size := by
  induction size generalizing n with
  | zero => rfl
  | succ size ih => simp [ofNat, ih]

@[simp] theorem toNat_nil : toNat [] = 0 := rfl

@[simp] theorem toNat_concat (bytes : List UInt8) (b : UInt8) :
    toNat (bytes ++ [b]) = 256 * toNat bytes + b.toNat := by
  simp [toNat]

end ValidatorReader.Bytes
