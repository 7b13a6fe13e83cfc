import ValidatorReader.Bytes.Base64
import ValidatorReader.Value.Basic

/-!
# Values as JSON

Values are written as JSON in ASCII on one line, with a blank after each comma and colon. Bytes are
written in base64, an address as an object that holds its bytes, and a type as its name.
-/

namespace ValidatorReader.Value

/-- A code unit of UTF-16 as an escape. -/
def unitEscape (unit : Nat) : List Char :=
  '\\' :: 'u' :: Text.hexField 4 unit

/-- A character inside a JSON string. -/
def jsonChar (c : Char) : List Char :=
  let n := c.toNat
  if c = '"' ∨ c = '\\' then ['\\', c]
  else if 0x20 ≤ n ∧ n ≤ 0x7e then [c]
  else if c = '\n' then ['\\', 'n']
  else if c = '\r' then ['\\', 'r']
  else if c = '\t' then ['\\', 't']
  else if n = 0x08 then ['\\', 'b']
  else if n = 0x0c then ['\\', 'f']
  else if n < 0x10000 then unitEscape n
  else
    let rest := n - 0x10000
    unitEscape (0xd800 + rest / 0x400) ++ unitEscape (0xdc00 + rest % 0x400)

def jsonString (s : String) : String :=
  String.ofList ('"' :: s.toList.flatMap jsonChar ++ ['"'])

/-- A JSON object with the given members. -/
def jsonObject (members : List String) : String :=
  "\x7b" ++ commaSeparated members ++ "\x7d"

/-- A member of a JSON object. -/
def jsonMember (name : String) (content : String) : String :=
  jsonString name ++ ": " ++ content

mutual
/-- A value as JSON. -/
def toJson : Value → String
  | null => "null"
  | bool b => if b then "true" else "false"
  | int n => toString n
  | text s => jsonString s
  | bytes b => jsonString (Bytes.toBase64 b)
  | byteArray b => jsonString (Bytes.toBase64 b)
  | address a => jsonObject [jsonMember "value" (jsonString (Bytes.toBase64 a.bytes))]
  | abiType t => jsonString t.name
  | list items => "[" ++ commaSeparated (jsonItems items) ++ "]"
  | tuple items => "[" ++ commaSeparated (jsonItems items) ++ "]"
  | dict entries => jsonObject (jsonMembers entries)

def jsonItems : List Value → List String
  | [] => []
  | item :: rest => item.toJson :: jsonItems rest

def jsonMembers : List (String × Value) → List String
  | [] => []
  | (name, value) :: rest => jsonMember name value.toJson :: jsonMembers rest
end

end ValidatorReader.Value
