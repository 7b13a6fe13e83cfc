import ValidatorReader.Failure

/-!
# Addresses from untyped values

An address stands for itself, a text is read as hexadecimal, and anything else is first turned into
bytes: byte strings as they are, lists byte by byte, and a number into that many zero bytes.
-/

namespace ValidatorReader.Address

def ofByteList (bytes : List UInt8) : Except Failure Address :=
  (ofBytes bytes).mapError .address

/-- The byte that an item of a list stands for. -/
def itemByte (item : Value) : Except Failure UInt8 :=
  match item.integer? with
  | none => .error (.shape (.notInteger item.kind))
  | some n =>
    if 0 ≤ n ∧ n < 256 then .ok (UInt8.ofNat n.toNat) else .error (.shape .byteOutOfRange)

/-- The address of `n` zero bytes, which is one only for twenty of them. -/
def ofZeros (n : Int) : Except Failure Address :=
  if n < -0x8000000000000000 ∨ 0x8000000000000000 ≤ n then .error (.shape .countTooLarge)
  else if n < 0 then .error (.shape .negativeCount)
  else if 0x8000000000000000 - 34 < n then .error (.shape .stringTooLarge)
  else if 0x800000000000 ≤ n then .error (.shape .memoryExhausted)
  else if n = 20 then ofByteList (List.replicate 20 0)
  else .error (.address (.wrongSize n.toNat))

/-- The address that a value of any kind stands for. -/
def coerce : Value → Except Failure Address
  | .address a => .ok a
  | .text s => (ofText s).mapError .address
  | .bytes b => ofByteList b
  | .byteArray b => ofByteList b
  | .int n => ofZeros n
  | .bool b => ofZeros b.toInt
  | .list items => items.mapM itemByte >>= ofByteList
  | .tuple items => items.mapM itemByte >>= ofByteList
  | .dict entries => (entries.map fun e => Value.text e.1).mapM itemByte >>= ofByteList
  | v => .error (.shape (.notBytes v.kind))

/-- The address made of a value that must be a byte string. -/
def ofRaw : Value → Except Failure Address
  | .bytes b => ofByteList b
  | .byteArray b => ofByteList b
  | v => .error (.shape (.addressNotBytes v.kind))

/-- Byte strings are no hexadecimal text, though the first checks take them for one. -/
def ofByteText (v : Value) (size : Nat) : Except Failure Address :=
  if size = 0 then .error (.address (.noDigits v.quoted))
  else if 40 < size then .error (.address (.tooLong size))
  else .error (.shape .fillNotByte)

/-- Reads an address from a value that must be a text. -/
def ofTextValue : Value → Except Failure Address
  | .text s => (ofText s).mapError .address
  | .bytes b => ofByteText (.bytes b) b.length
  | .byteArray b => ofByteText (.byteArray b) b.length
  | .list items => .error (.shape (.noMember (Value.list items).kind "lower"))
  | .tuple items => .error (.shape (.noMember (Value.tuple items).kind "lower"))
  | .dict _ => .error (.shape .rangeAsKey)
  | v => .error (.shape (.notSubscriptable v.kind))

end ValidatorReader.Address
