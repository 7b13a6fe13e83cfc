import ValidatorReader.Text.Printable
import ValidatorReader.Bytes.Hex

/-!
# Quoted text

Texts and byte strings between quotes, as they appear in messages. The quote is a single one
unless the content has single quotes and no double ones; what cannot be shown is escaped.
-/

namespace ValidatorReader.Text

open Bytes (hexDigit)

/-- The last `width` hexadecimal digits of a number. -/
def hexField : Nat → Nat → List Char
  | 0, _ => []
  | width + 1, n => hexField width (n / 16) ++ [hexDigit (n % 16)]

def singleQuote : Char := Char.ofNat 0x27

def doubleQuote : Char := Char.ofNat 0x22

/-- The quote for content with or without single and double quotes. -/
def quoteFor (hasSingle hasDouble : Bool) : Char :=
  if hasSingle && !hasDouble then doubleQuote else singleQuote

/-- A character inside a text quoted with `quote`. -/
def escapeChar (quote c : Char) : List Char :=
  if c = '\\' ∨ c = quote then ['\\', c]
  else if c = '\n' then ['\\', 'n']
  else if c = '\r' then ['\\', 'r']
  else if c = '\t' then ['\\', 't']
  else if isPrintable c then [c]
  else if c.toNat < 0x100 then '\\' :: 'x' :: hexField 2 c.toNat
  else if c.toNat < 0x10000 then '\\' :: 'u' :: hexField 4 c.toNat
  else '\\' :: 'U' :: hexField 8 c.toNat

def quoted (s : String) : String :=
  let cs := s.toList
  let quote := quoteFor (cs.contains singleQuote) (cs.contains doubleQuote)
  String.ofList ([quote] ++ cs.flatMap (escapeChar quote) ++ [quote])

/-- A byte inside a byte string in which one quote is escaped. -/
def escapeByte (escaped : Char) (b : UInt8) : List Char :=
  let c := Char.ofNat b.toNat
  if b < 0x7f then
    if c.toNat < 0x20 && c != '\n' && c != '\r' && c != '\t' then '\\' :: 'x' :: hexField 2 b.toNat
    else escapeChar escaped c
  else '\\' :: 'x' :: hexField 2 b.toNat

/-- Bytes between quotes, after the letter `b`. -/
def enclosedBytes (escaped quote : Char) (bytes : List UInt8) : String :=
  String.ofList (['b', quote] ++ bytes.flatMap (escapeByte escaped) ++ [quote])

def quoteForBytes (bytes : List UInt8) : Char :=
  quoteFor (bytes.contains 0x27) (bytes.contains 0x22)

def quotedBytes (bytes : List UInt8) : String :=
  enclosedBytes (quoteForBytes bytes) (quoteForBytes bytes) bytes

/-- A byte array between quotes; single quotes in it are escaped between double quotes too. -/
def quotedByteArray (bytes : List UInt8) : String :=
  "bytearray(" ++ enclosedBytes singleQuote (quoteForBytes bytes) bytes ++ ")"

/-- The first `limit` characters of a text. -/
def clip (limit : Nat) (s : String) : String :=
  String.ofList (s.toList.take limit)

end ValidatorReader.Text
