import ValidatorReader.Text.Blank
import ValidatorReader.Number.IntegerText

/-!
# Double-precision numbers in text

A number with a fraction and an exponent is read as the nearest double, ties going to the even
neighbour. A double is held by its sign and the bits of its magnitude, and all texts for
not-a-number give the same value.
-/

namespace ValidatorReader.Number

/-- A double: not a number, or a sign and the 63 bits of a magnitude. -/
inductive Binary64
  | nan
  | number (negative : Bool) (magnitude : Nat)
deriving DecidableEq, Repr

namespace Binary64

def infinityBits : Nat := 0x7ff0000000000000

/-- The 64 bits of a double other than not-a-number. -/
def bits? : Binary64 → Option Nat
  | nan => none
  | number negative magnitude => some (if negative then (1 <<< 63) + magnitude else magnitude)

/-- Whether a double is a number that is not above zero. -/
def isAtMostZero : Binary64 → Bool
  | nan => false
  | number negative magnitude => negative || magnitude == 0

/-- A quotient rounded to the nearest natural number, ties to even. -/
def roundQuotient (num den : Nat) : Nat :=
  let q := num / den
  let twice := 2 * (num % den)
  if twice < den then q
  else if den < twice then q + 1
  else q + q % 2

/-- The exponent of two, at least that of the smallest double, for which the quotient of two
positive numbers has a mantissa of 53 bits or, at the bottom, fewer. -/
def unitExponent (num den : Nat) : Int :=
  let guess : Int := num.log2 - den.log2 - 53
  let wide : Bool :=
    if guess ≤ 0 then den <<< 53 ≤ num <<< (-guess).toNat
    else den <<< (guess.toNat + 53) ≤ num
  max (if wide then guess + 1 else guess) (-1074)

/-- The magnitude bits of the double nearest to a quotient with a positive denominator. -/
def magnitudeOfQuotient (num den : Nat) : Nat :=
  if num = 0 then 0
  else
    let e := unitExponent num den
    let mantissa :=
      if e ≤ 0 then roundQuotient (num <<< (-e).toNat) den
      else roundQuotient num (den <<< e.toNat)
    min (((e + 1074).toNat <<< 52) + mantissa) infinityBits

/-- The magnitude bits of the double nearest to a decimal whose last digit stands for a power of
ten. Decimals far outside the range of doubles are settled by their order of magnitude. -/
def magnitudeOfDecimal (digits : List Nat) (exponent : Int) : Nat :=
  let significant := digits.dropWhile (· == 0)
  let n := ofDigits 10 significant
  let order := exponent + significant.length
  if n = 0 ∨ order < -400 then 0
  else if 400 < order then infinityBits
  else if 0 ≤ exponent then magnitudeOfQuotient (n * Nat.pow 10 exponent.toNat) 1
  else magnitudeOfQuotient n (Nat.pow 10 (-exponent).toNat)

/-- A character of a number in lower case, with its digits in ASCII. -/
def normalChar (c : Char) : Char :=
  (asciiForm c).toLower

/-- Takes the digits and underscores from the front. -/
def takeRun (cs : List Char) : List Char × List Char :=
  cs.span fun c => c.isDigit || c == '_'

/-- The values of the digits of a run, if it is empty or its underscores separate digits. -/
def runDigits? (run : List Char) : Option (List Nat) :=
  if run.isEmpty || underscoresSeparate false run then some (run.filterMap (digitBelow? 10))
  else none

/-- Reads an exponent part; without one the exponent is zero. -/
def readExponent? : List Char → Option Int
  | [] => some 0
  | 'e' :: rest => do
    let (negative, unsigned) := takeSign rest
    let (run, rest) := takeRun unsigned
    if run.isEmpty || !rest.isEmpty then none
    else (runDigits? run).map fun digits => signed negative (ofDigits 10 digits)
  | _ => none

/-- The magnitude bits that an unsigned decimal in lower case denotes. -/
def readMagnitude? (cs : List Char) : Option Nat := do
  let (whole, rest) := takeRun cs
  let (fraction, rest) := match rest with
    | '.' :: rest => takeRun rest
    | rest => ([], rest)
  let wholeDigits ← runDigits? whole
  let fractionDigits ← runDigits? fraction
  let exponent ← readExponent? rest
  let digits := wholeDigits ++ fractionDigits
  if digits.isEmpty then none
  else some (magnitudeOfDecimal digits (exponent - fractionDigits.length))

/-- Reads a double from a text without blanks around it. -/
def ofText? (text : String) : Option Binary64 :=
  let (negative, unsigned) := takeSign (text.toList.map normalChar)
  let name := String.ofList unsigned
  if name = "nan" then some nan
  else if name = "inf" ∨ name = "infinity" then some (number negative infinityBits)
  else (readMagnitude? unsigned).map (number negative)

end Binary64

end ValidatorReader.Number
