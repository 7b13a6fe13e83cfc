import ValidatorReader.Log.Template.Basic
import ValidatorReader.Number.Binary64
import ValidatorReader.Value.Basic

/-!
# Laying out an argument

An argument is shown as text, as an integer in some base, as a real number with or without an exponent,
or as a single character, and is then filled up to the width of its field.
-/

namespace ValidatorReader.Log

/-- How a field lays out its text: width, precision and flags after all sizes are known. -/
structure Layout where
  width : Nat
  precision : Option Nat
  left : Bool
  plus : Bool
  blank : Bool
  alternate : Bool
  zeros : Bool

def Layout.text (l : Layout) (cs : List Char) : List Char :=
  let shown := match l.precision with
    | some n => cs.take n
    | none => cs
  let blanks := List.replicate (l.width - shown.length) ' '
  if l.left then shown ++ blanks else blanks ++ shown

/-- A number in a field: sign, mark and digits, with the filling before, between or behind them. -/
def Layout.number (l : Layout) (negative : Bool) (mark digits : List Char) : List Char :=
  let sign := if negative then ['-'] else if l.plus then ['+'] else if l.blank then [' '] else []
  let missing := l.width - (sign.length + mark.length + digits.length)
  if l.left then sign ++ mark ++ digits ++ List.replicate missing ' '
  else if l.zeros then sign ++ mark ++ List.replicate missing '0' ++ digits
  else List.replicate missing ' ' ++ sign ++ mark ++ digits

/-- Digits filled up with zeros to the precision. -/
def Layout.digits (l : Layout) (digits : List Char) : List Char :=
  List.replicate (l.precision.getD 0 - digits.length) '0' ++ digits

/-- A text in which characters outside ASCII are escaped. -/
def asciiOnly (cs : List Char) : List Char :=
  cs.flatMap fun c =>
    let n := c.toNat
    if n < 0x80 then [c]
    else if n < 0x100 then '\\' :: 'x' :: Text.hexField 2 n
    else if n < 0x10000 then '\\' :: 'u' :: Text.hexField 4 n
    else '\\' :: 'U' :: Text.hexField 8 n

/-- An integer in a field, in the base of the conversion. -/
def showInteger (l : Layout) (conversion : Char) (n : Int) : List Char :=
  let base := if conversion = 'o' then 8 else if conversion = 'x' ∨ conversion = 'X' then 16 else 10
  let digits := Nat.toDigits base n.natAbs
  let digits := l.digits (if conversion = 'X' then digits.map Char.toUpper else digits)
  let mark := if l.alternate && base != 10 then ['0', conversion] else []
  l.number (decide (n < 0)) mark digits

/-- The integer that the nearest double to an integer stands for, unless it is too large. -/
def nearestDouble? (n : Nat) : Option Nat :=
  let bits := Number.Binary64.magnitudeOfQuotient n 1
  if bits = Number.Binary64.infinityBits then none
  else
    let exponent := bits >>> 52
    let mantissa := bits % (1 <<< 52) + (1 <<< 52)
    if n = 0 then some 0
    else if 1075 ≤ exponent then some (mantissa <<< (exponent - 1075))
    else some (mantissa >>> (1075 - exponent))

/-- The first `size` digits of a number and the power of ten of the first, rounded to even. -/
def leadingDigits (size n : Nat) : List Char × Nat :=
  let all := Nat.toDigits 10 n
  if all.length ≤ size then (all ++ List.replicate (size - all.length) '0', all.length - 1)
  else
    let rounded := Nat.toDigits 10 (Number.Binary64.roundQuotient n (Nat.pow 10 (all.length - size)))
    if size < rounded.length then (rounded.take size, all.length) else (rounded, all.length - 1)

def fraction (alternate : Bool) (digits : List Char) : List Char :=
  if digits.isEmpty && !alternate then [] else '.' :: digits

def scientific (l : Layout) (places n : Nat) : List Char :=
  let (digits, exponent) := if n = 0 then (List.replicate (places + 1) '0', 0)
    else leadingDigits (places + 1) n
  let power := Nat.toDigits 10 exponent
  digits.take 1 ++ fraction l.alternate (digits.drop 1) ++ ['e', '+'] ++
    List.replicate (2 - power.length) '0' ++ power

/-- Digits without the zeros at their end. -/
def withoutTrailingZeros (digits : List Char) : List Char :=
  (digits.reverse.dropWhile (· == '0')).reverse

/-- A number with or without an exponent, whichever suits its size. -/
def general (l : Layout) (places n : Nat) : List Char :=
  let size := max places 1
  let (digits, exponent) := if n = 0 then (List.replicate size '0', 0) else leadingDigits size n
  let trim (cs : List Char) : List Char := if l.alternate then cs else withoutTrailingZeros cs
  if exponent < size then
    digits.take (exponent + 1) ++ fraction l.alternate (trim (digits.drop (exponent + 1)))
  else
    let power := Nat.toDigits 10 exponent
    digits.take 1 ++ fraction l.alternate (trim (digits.drop 1)) ++ ['e', '+'] ++
      List.replicate (2 - power.length) '0' ++ power

/-- An integer as a real number in a field. -/
def showReal (l : Layout) (conversion : Char) (n : Int) : Except TemplateError (List Char) :=
  match nearestDouble? n.natAbs with
  | none => .error .tooLargeForFloat
  | some m =>
    let places := l.precision.getD 6
    let body := match conversion.toLower with
      | 'e' => scientific l places m
      | 'f' => Nat.toDigits 10 m ++ fraction l.alternate (List.replicate places '0')
      | _ => general l places m
    .ok (l.number (decide (n < 0)) [] (if conversion.isUpper then body.map Char.toUpper else body))

/-- A single character in a field. -/
def showCharacter (l : Layout) : Value → Except TemplateError (List Char)
  | .text s =>
    match s.toList with
    | [c] => .ok ({ l with precision := none }.text [c])
    | _ => .error .notCharacter
  | v =>
    match v.integer? with
    | some n =>
      if 0 ≤ n ∧ n < 0x110000 then .ok ({ l with precision := none }.text [Char.ofNat n.toNat])
      else .error .characterTooLarge
    | none => .error .notCharacter

def showArgument (f : Field) (c : Char) (l : Layout) (v : Value) : Except TemplateError (List Char) :=
  if c = 's' then .ok (l.text v.display.toList)
  else if c = 'r' then .ok (l.text v.quoted.toList)
  else if c = 'a' then .ok (l.text (asciiOnly v.quoted.toList))
  else if c = 'c' then showCharacter l v
  else if c = 'd' ∨ c = 'i' ∨ c = 'u' then
    match v.integer? with
    | some n => .ok (showInteger l c n)
    | none => .error (.notReal c v.kind)
  else if c = 'o' ∨ c = 'x' ∨ c = 'X' then
    match v.integer? with
    | some n => .ok (showInteger l c n)
    | none => .error (.notInteger c v.kind)
  else if ['e', 'E', 'f', 'F', 'g', 'G'].contains c then
    match v.integer? with
    | some n => showReal l c n
    | none => .error (.notFloat v.kind)
  else .error (.unknownConversion c f.position)

end ValidatorReader.Log
