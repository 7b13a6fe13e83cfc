import ValidatorReader.Text.Blank
import ValidatorReader.Text.Digit
import ValidatorReader.Text.Quoted

/-!
# Integers in text

An integer is written as an optional sign and digits, with single underscores between digits and
blanks around the whole. Decimal texts may use the digits of any script and are limited in length;
literals may also have a hexadecimal, octal or binary mark.
-/

namespace ValidatorReader.Number

inductive IntegerError
  | tooLong (digits : Nat)
  | malformed
deriving DecidableEq, Repr

def maxDigits : Nat := 4300

/-- The text of an integer error about a text or byte string with the given quoted form. -/
def IntegerError.message (e : IntegerError) (quoted : String) : String :=
  match e with
  | .tooLong digits =>
    s!"Exceeds the limit ({maxDigits} digits) for integer string conversion: value has {digits} " ++
      "digits; use sys.set_int_max_str_digits() to increase the limit"
  | .malformed => s!"invalid literal for int() with base 10: {Text.clip 200 quoted}"

/-- Digits and blanks of other scripts as their ASCII counterparts. -/
def asciiForm (c : Char) : Char :=
  if c.toNat < 0x80 then c
  else if Text.isBlank c then ' '
  else match Text.digitValue? c with
    | some d => Bytes.hexDigit d
    | none => c

/-- The value of a digit below a base. -/
def digitBelow? (base : Nat) (c : Char) : Option Nat :=
  (Bytes.hexValue? c).filter (· < base)

/-- Whether underscores stand singly between digits; `digitBefore` tells of the character before. -/
def underscoresSeparate (digitBefore : Bool) : List Char → Bool
  | [] => digitBefore
  | c :: rest =>
    if c = '_' then digitBefore && underscoresSeparate false rest
    else underscoresSeparate true rest

/-- A run of digits in a base and what follows it, if underscores in the run are well placed. -/
def digitRun? (base : Nat) (cs : List Char) : Option (List Nat × List Char) :=
  let isMember (c : Char) : Bool := c == '_' || (digitBelow? base c).isSome
  let run := cs.takeWhile isMember
  if underscoresSeparate false run then
    some (run.filterMap (digitBelow? base), cs.dropWhile isMember)
  else none

/-- The number with the given digits, most significant first. -/
def ofDigits (base : Nat) (digits : List Nat) : Nat :=
  digits.foldl (fun n d => base * n + d) 0

/-- Takes an optional sign from the front: whether it is a minus, and the rest. -/
def takeSign : List Char → Bool × List Char
  | '-' :: rest => (true, rest)
  | '+' :: rest => (false, rest)
  | cs => (false, cs)

/-- The integer of a sign and a magnitude. -/
def signed (negative : Bool) (n : Nat) : Int :=
  if negative then -(n : Int) else n

/-- Reads a decimal integer; length is checked before what follows the digits. -/
def readDecimal (cs : List Char) : Except IntegerError Int :=
  let (negative, unsigned) := takeSign ((cs.map asciiForm).dropWhile Text.isAsciiBlank)
  match digitRun? 10 unsigned with
  | none => .error .malformed
  | some (digits, rest) =>
    if maxDigits < digits.length then .error (.tooLong digits.length)
    else if rest.all Text.isAsciiBlank then .ok (signed negative (ofDigits 10 digits))
    else .error .malformed

/-- The base that a mark after a zero stands for. -/
def markedBase? (c : Char) : Option Nat :=
  if c = 'x' ∨ c = 'X' then some 16
  else if c = 'o' ∨ c = 'O' then some 8
  else if c = 'b' ∨ c = 'B' then some 2
  else none

/-- Splits a base mark from the digits after it, which may begin with one underscore. -/
def takeMark? : List Char → Option (Nat × List Char)
  | '0' :: mark :: rest =>
    (markedBase? mark).map fun base =>
      (base, match rest with
        | '_' :: digits => digits
        | digits => digits)
  | _ => none

/-- The magnitude of a literal without its sign. -/
def readMagnitude? (cs : List Char) : Option Nat :=
  match takeMark? cs with
  | some (base, marked) => do
    let (digits, rest) ← digitRun? base marked
    if rest.all Text.isAsciiBlank then some (ofDigits base digits) else none
  | none => do
    let (digits, rest) ← digitRun? 10 cs
    let n := ofDigits 10 digits
    let plain := cs.head? != some '0' || n == 0
    if digits.length ≤ maxDigits && plain && rest.all Text.isAsciiBlank then some n else none

/-- Reads an integer literal in any notation; a decimal other than zero has no leading zero. -/
def readLiteral? (cs : List Char) : Option Int :=
  let (negative, unsigned) := takeSign ((cs.map asciiForm).dropWhile Text.isAsciiBlank)
  (readMagnitude? unsigned).map (signed negative)

end ValidatorReader.Number
