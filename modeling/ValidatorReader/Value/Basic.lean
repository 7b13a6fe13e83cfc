import ValidatorReader.Abi.Type
import ValidatorReader.Address.Basic

/-!
# Untyped values

The values that callers pass where a number, a text, an address or a list is expected, before
anything is known of their kind. A value has a quoted form, for messages, and a plain form, in which
a text stands without quotes.
-/

namespace ValidatorReader

inductive Value
  | null
  | bool (b : Bool)
  | int (n : Int)
  | text (s : String)
  | bytes (b : List UInt8)
  | byteArray (b : List UInt8)
  | address (a : Address)
  | abiType (t : AbiType)
  | list (items : List Value)
  | tuple (items : List Value)
  | dict (entries : List (String × Value))

inductive Kind
  | null
  | bool
  | int
  | text
  | bytes
  | byteArray
  | address
  | abiType
  | list
  | tuple
  | dict
deriving DecidableEq, Repr

namespace Kind

def name : Kind → String
  | null => "NoneType"
  | bool => "bool"
  | int => "int"
  | text => "str"
  | bytes => "bytes"
  | byteArray => "bytearray"
  | address => "Address"
  | abiType => "AbiType"
  | list => "list"
  | tuple => "tuple"
  | dict => "dict"

def className : Kind → String
  | address => "<class 'validator_contract.address.Address'>"
  | abiType => "<enum 'AbiType'>"
  | k => "<class '" ++ k.name ++ "'>"

end Kind

namespace Value

instance : Inhabited Value := ⟨null⟩

def kind : Value → Kind
  | null => .null
  | bool _ => .bool
  | int _ => .int
  | text _ => .text
  | bytes _ => .bytes
  | byteArray _ => .byteArray
  | address _ => .address
  | abiType _ => .abiType
  | list _ => .list
  | tuple _ => .tuple
  | dict _ => .dict

def commaSeparated (parts : List String) : String :=
  ", ".intercalate parts

mutual
/-- The form of a value inside another value or a message that quotes it. -/
def quoted : Value → String
  | null => "None"
  | bool true => "True"
  | bool false => "False"
  | int n => toString n
  | text s => Text.quoted s
  | bytes b => Text.quotedBytes b
  | byteArray b => Text.quotedByteArray b
  | address a => a.quoted
  | abiType t => t.quoted
  | list items => "[" ++ commaSeparated (quotedItems items) ++ "]"
  | tuple [item] => "(" ++ item.quoted ++ ",)"
  | tuple items => "(" ++ commaSeparated (quotedItems items) ++ ")"
  | dict entries => "\x7b" ++ commaSeparated (quotedEntries entries) ++ "\x7d"

def quotedItems : List Value → List String
  | [] => []
  | item :: rest => item.quoted :: quotedItems rest

def quotedEntries : List (String × Value) → List String
  | [] => []
  | (key, value) :: rest => (Text.quoted key ++ ": " ++ value.quoted) :: quotedEntries rest
end

/-- The form of a value as a text of its own. -/
def display : Value → String
  | text s => s
  | address a => a.toHex
  | abiType t => t.label
  | v => v.quoted

/-- Empty texts and collections, zero, false and null do not hold. -/
def holds : Value → Bool
  | null => false
  | bool b => b
  | int n => n != 0
  | text s => !s.isEmpty
  | bytes b => !b.isEmpty
  | byteArray b => !b.isEmpty
  | address _ => true
  | abiType _ => true
  | list items => !items.isEmpty
  | tuple items => !items.isEmpty
  | dict entries => !entries.isEmpty

/-- The integer that a number or a truth value counts as. -/
def integer? : Value → Option Int
  | int n => some n
  | bool b => some b.toInt
  | _ => none

/-- The items of a value that can be gone through one by one. -/
def items? : Value → Option (List Value)
  | text s => some (s.toList.map fun c => text c.toString)
  | bytes b => some (b.map fun x => int x.toNat)
  | byteArray b => some (b.map fun x => int x.toNat)
  | list items => some items
  | tuple items => some items
  | dict entries => some (entries.map fun e => text e.1)
  | _ => none

/-- The first entry of a dictionary that cannot be a key, if the value holds one. -/
def unhashable? : Value → Option Kind
  | byteArray _ => some .byteArray
  | list _ => some .list
  | dict _ => some .dict
  | tuple items => unhashableItem? items
  | _ => none
where
  unhashableItem? : List Value → Option Kind
    | [] => none
    | item :: rest => item.unhashable?.orElse fun _ => unhashableItem? rest

end Value

end ValidatorReader
