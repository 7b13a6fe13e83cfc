import ValidatorReader.Log.Error
import ValidatorReader.Number.IntegerText

/-!
# Message templates

A message may have fields that its arguments fill, each a percent sign with an optional key, flags, a
width, a precision and a letter that says how the argument is shown. A template is cut into pieces; it
may end within its last field.
-/

namespace ValidatorReader.Log

/-- A width or precision: absent, written in the template, or taken from the arguments. -/
inductive Size
  | absent
  | fixed (n : Nat)
  | argument
deriving DecidableEq, Repr

/-- The key of a field: absent, between parentheses, or without a closing one. -/
inductive FieldKey
  | absent
  | named (key : List Char)
  | unclosed
deriving DecidableEq, Repr

/-- A field of a template, without a conversion if the template ends in front of it. -/
structure Field where
  key : FieldKey := .absent
  flags : List Char := []
  width : Size := .absent
  precision : Size := .absent
  conversion : Option Char := none
  position : Nat
deriving DecidableEq, Repr

inductive TemplatePiece
  | text (c : Char)
  | field (f : Field)
deriving DecidableEq, Repr

/-! ## Reading a template -/

/-- The key in front of its closing parenthesis; parentheses inside it are balanced. -/
def keyLength? : Nat → List Char → Option Nat
  | _, [] => none
  | depth, c :: rest =>
    if c = ')' then
      match depth with
      | 0 => some 0
      | depth + 1 => (keyLength? depth rest).map (· + 1)
    else (keyLength? (if c = '(' then depth + 1 else depth) rest).map (· + 1)

def readSize (cs : List Char) (default : Size) : Size × List Char :=
  match cs with
  | '*' :: rest => (.argument, rest)
  | _ =>
    let digits := cs.takeWhile Char.isDigit
    if digits.isEmpty then (default, cs)
    else (.fixed (Number.ofDigits 10 (digits.filterMap (Number.digitBelow? 10))), cs.drop digits.length)

def readKey (cs : List Char) : FieldKey × List Char :=
  match cs with
  | '(' :: rest =>
    match keyLength? 0 rest with
    | some n => (.named (rest.take n), rest.drop (n + 1))
    | none => (.unclosed, [])
  | _ => (.absent, cs)

/-- Drops the letter for the size of a number, which says nothing here. -/
def dropSizeLetter : List Char → List Char
  | [] => []
  | c :: rest => if ['h', 'l', 'L'].contains c then rest else c :: rest

/-- Reads the piece behind a percent sign at a position: the piece and the characters it takes. Another
percent sign stands for itself. -/
def readField (position : Nat) (cs : List Char) : TemplatePiece × Nat :=
  if cs.head? = some '%' then (.text '%', 1)
  else
    let (key, afterKey) := readKey cs
    let flags := afterKey.takeWhile fun c => ['-', '+', ' ', '#', '0'].contains c
    let (width, afterWidth) := readSize (afterKey.drop flags.length) .absent
    let (precision, afterPrecision) := match afterWidth with
      | '.' :: rest => readSize rest (.fixed 0)
      | _ => (.absent, afterWidth)
    let last := dropSizeLetter afterPrecision
    let taken := cs.length - last.tail.length
    (.field { key, flags, width, precision, conversion := last.head?, position := position + taken - 1 },
      taken)

/-- The pieces of a template from a position on; `skip` characters belong to the last field. -/
def readPieces : Nat → Nat → List Char → List TemplatePiece
  | _, _, [] => []
  | skip + 1, position, _ :: rest => readPieces skip (position + 1) rest
  | 0, position, c :: rest =>
    if c = '%' then
      let (piece, taken) := readField (position + 1) rest
      piece :: readPieces taken (position + 1) rest
    else .text c :: readPieces 0 (position + 1) rest

end ValidatorReader.Log
