import ValidatorReader.Text.Blank

/-!
# Hexadecimal text

Bytes are written as two lower-case digits each. The reader takes digits of either case and skips
blanks between two bytes, never inside one.
-/

namespace ValidatorReader.Bytes

/-- The lower-case hexadecimal digit of a number below 16. -/
def hexDigit (n : Nat) : Char :=
  if n < 10 then Char.ofNat (48 + n) else Char.ofNat (87 + n)

/-- The number that an ASCII hexadecimal digit of either case stands for. -/
def hexValue? (c : Char) : Option Nat :=
  let n := c.toNat
  if 48 ≤ n && n ≤ 57 then some (n - 48)
  else if 97 ≤ n && n ≤ 102 then some (n - 87)
  else if 65 ≤ n && n ≤ 70 then some (n - 55)
  else none

theorem hexValue?_hexDigit : ∀ n < 16, hexValue? (hexDigit n) = some n := by decide

theorem hexValue?_lt {c : Char} {n : Nat} (h : hexValue? c = some n) : n < 16 := by
  simp only [hexValue?, Bool.and_eq_true, decide_eq_true_eq] at h
  split at h
  · simp only [Option.some.injEq] at h; omega
  · split at h
    · simp only [Option.some.injEq] at h; omega
    · split at h
      · simp only [Option.some.injEq] at h; omega
      · simp at h

/-- The two digits of each byte, in order. -/
def hexChars (bytes : List UInt8) : List Char :=
  bytes.flatMap fun b => [hexDigit (b.toNat / 16), hexDigit (b.toNat % 16)]

def toHex (bytes : List UInt8) : String :=
  String.ofList (hexChars bytes)

/-- The bytes that a hexadecimal text denotes, blanks between bytes skipped. -/
def ofHexChars? : List Char → Option (List UInt8)
  | [] => some []
  | [c] => if Text.isAsciiBlank c then some [] else none
  | high :: low :: rest =>
    if Text.isAsciiBlank high then ofHexChars? (low :: rest)
    else do
      let h ← hexValue? high
      let l ← hexValue? low
      let tail ← ofHexChars? rest
      return UInt8.ofNat (16 * h + l) :: tail

@[simp] theorem hexChars_nil : hexChars [] = [] := rfl

@[simp] theorem hexChars_cons (b : UInt8) (bytes : List UInt8) :
    hexChars (b :: bytes) = hexDigit (b.toNat / 16) :: hexDigit (b.toNat % 16) :: hexChars bytes :=
  rfl

theorem isAsciiBlank_hexDigit : ∀ n < 16, Text.isAsciiBlank (hexDigit n) = false := by decide

/-- Reading undoes writing. -/
@[simp] theorem ofHexChars?_hexChars (bytes : List UInt8) :
    ofHexChars? (hexChars bytes) = some bytes := by
  induction bytes with
  | nil => rfl
  | cons b rest ih =>
    have hb : b.toNat < 256 := b.toNat_lt
    have hsum : 16 * (b.toNat / 16) + b.toNat % 16 = b.toNat := by omega
    simp only [hexChars_cons, ofHexChars?, isAsciiBlank_hexDigit (b.toNat / 16) (by omega),
      hexValue?_hexDigit (b.toNat / 16) (by omega), hexValue?_hexDigit (b.toNat % 16) (by omega),
      ih, hsum, UInt8.ofNat_toNat, Option.bind_eq_bind, Option.bind_some, Option.pure_def,
      Bool.false_eq_true, if_false]

@[simp] theorem length_hexChars (bytes : List UInt8) :
    (hexChars bytes).length = 2 * bytes.length := by
  induction bytes with
  | nil => rfl
  | cons b rest ih => simp only [hexChars_cons, List.length_cons, ih]; omega

/-- No blank is a hexadecimal digit. -/
theorem isAsciiBlank_eq_false_of_isSome_hexValue? {c : Char} (h : (hexValue? c).isSome = true) :
    Text.isAsciiBlank c = false := by
  rw [Bool.eq_false_iff]
  intro hblank
  simp only [Text.isAsciiBlank, Bool.or_eq_true, Bool.and_eq_true, decide_eq_true_eq,
    beq_iff_eq] at hblank
  have hnone : hexValue? c = none := by
    simp only [hexValue?, Bool.and_eq_true, decide_eq_true_eq]
    rw [if_neg (by omega), if_neg (by omega), if_neg (by omega)]
  simp [hnone] at h

/-- Without blanks there are two digits to a byte. -/
theorem length_eq_of_ofHexChars? {cs : List Char} {bytes : List UInt8}
    (hdigits : ∀ c ∈ cs, (hexValue? c).isSome = true) (h : ofHexChars? cs = some bytes) :
    cs.length = 2 * bytes.length := by
  induction cs using ofHexChars?.induct generalizing bytes with
  | case1 => simp_all [ofHexChars?]
  | case2 c hblank =>
    have hnot := isAsciiBlank_eq_false_of_isSome_hexValue? (hdigits c (by simp))
    simp [hblank] at hnot
  | case3 c hblank => simp [ofHexChars?, hblank] at h
  | case4 high low rest hblank ih =>
    have hnot := isAsciiBlank_eq_false_of_isSome_hexValue? (hdigits high (by simp))
    simp [hblank] at hnot
  | case5 high low rest hblank ih =>
    simp only [ofHexChars?, hblank, if_false, Option.bind_eq_bind, Option.bind_eq_some_iff,
      Bool.false_eq_true, Option.pure_def, Option.some.injEq] at h
    obtain ⟨_, _, _, _, tail, htail, rfl⟩ := h
    have hlength := ih (fun c hc ↦ hdigits c (by simp [hc])) htail
    simp only [List.length_cons]
    omega

end ValidatorReader.Bytes
