import ValidatorReader.Bytes.Hex
import ValidatorReader.Text.Quoted
import ValidatorReader.Keccak

/-!
# Account addresses

An address is twenty bytes. It is written in lower-case hexadecimal or with a checksum in the case
of its letters, and read from hexadecimal text that may be shorter than forty digits.
-/

namespace ValidatorReader

/-- A twenty-byte account address. -/
structure Address where
  bytes : List UInt8
  length_bytes : bytes.length = 20
deriving DecidableEq

inductive AddressError
  | noDigits (quoted : String)
  | tooLong (length : Nat)
  | badDigits (text : String)
  | wrongSize (size : Nat)
deriving DecidableEq, Repr

def AddressError.message : AddressError → String
  | noDigits quoted => s!"Address has no hex digits: {quoted}"
  | tooLong length => s!"Address hex part must be at most 40 characters, got {length}"
  | badDigits text => s!"Invalid hex characters in address: {text}"
  | wrongSize size => s!"Address must be 20 bytes, got {size}"

namespace Address

@[ext] theorem ext {a b : Address} (h : a.bytes = b.bytes) : a = b := by
  cases a; cases b; simpa using h

/-- The address with the given bytes, of which there must be twenty. -/
def ofBytes (bytes : List UInt8) : Except AddressError Address :=
  if h : bytes.length = 20 then .ok ⟨bytes, h⟩ else .error (.wrongSize bytes.length)

@[simp] theorem ofBytes_bytes (a : Address) : ofBytes a.bytes = .ok a := by
  simp [ofBytes, a.length_bytes]

/-- The characters after an optional `0x` or `0X`. -/
def digitsPart : List Char → List Char
  | '0' :: 'x' :: rest => rest
  | '0' :: 'X' :: rest => rest
  | cs => cs

/-- Reads an address from hexadecimal text; missing digits on the left are zeros. -/
def ofText (text : String) : Except AddressError Address :=
  let digits := digitsPart text.toList
  if digits.isEmpty then .error (.noDigits (Text.quoted text))
  else if 40 < digits.length then .error (.tooLong digits.length)
  else match Bytes.ofHexChars? (List.replicate (40 - digits.length) '0' ++ digits) with
    | none => .error (.badDigits text)
    | some bytes => ofBytes bytes

def toHex (a : Address) : String :=
  "0x" ++ Bytes.toHex a.bytes

/-- Reading undoes writing. -/
@[simp] theorem ofText_toHex (a : Address) : ofText a.toHex = .ok a := by
  have hdigits : digitsPart a.toHex.toList = Bytes.hexChars a.bytes := by
    simp [toHex, Bytes.toHex, digitsPart]
  have hlength : (Bytes.hexChars a.bytes).length = 40 := by
    rw [Bytes.length_hexChars, a.length_bytes]
  have hnonempty : (Bytes.hexChars a.bytes).isEmpty = false := by
    rw [List.isEmpty_eq_false_iff_exists_mem]
    exact List.exists_mem_of_length_pos (by omega)
  simp [ofText, hdigits, hlength, hnonempty]

/-- The address as a constructor call with its lower-case form. -/
def quoted (a : Address) : String :=
  "Address(" ++ Text.quoted a.toHex ++ ")"

/-! ## Checksummed form -/

/-- Half a byte for each hexadecimal digit, in order. -/
def nibbles (bytes : List UInt8) : List Nat :=
  bytes.flatMap fun b => [b.toNat / 16, b.toNat % 16]

/-- The digits of an address, a letter in upper case where a digest has a half byte of 8 or more. -/
def casedChars (digest : List UInt8) (a : Address) : List Char :=
  List.zipWith (fun c n => if 8 ≤ n then c.toUpper else c) (Bytes.hexChars a.bytes) (nibbles digest)

/-- The form whose letters are in the case that a digest gives them. -/
def cased (digest : List UInt8) (a : Address) : String :=
  String.ofList ('0' :: 'x' :: a.casedChars digest)

/-- The lower-case digits as bytes, of which the checksum is the digest. -/
def digitBytes (a : Address) : List UInt8 :=
  (Bytes.hexChars a.bytes).map fun c => UInt8.ofNat c.toNat

/-- The form whose letter case is a checksum by the given digest. -/
def checksumBy (hash : List UInt8 → List UInt8) (a : Address) : String :=
  a.cased (hash a.digitBytes)

/-- The form whose letter case is the checksum. -/
def toChecksum (a : Address) : String :=
  a.checksumBy Keccak.digest

end Address

end ValidatorReader
