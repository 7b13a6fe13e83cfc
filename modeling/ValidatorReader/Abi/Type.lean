/-!
# ABI types

The two types that the validator contract takes and returns.
-/

namespace ValidatorReader

inductive AbiType
  | uint256
  | addressArray
deriving DecidableEq, Repr

namespace AbiType

def name : AbiType → String
  | uint256 => "uint256"
  | addressArray => "address[]"

/-- The label of the type in messages. -/
def label : AbiType → String
  | uint256 => "AbiType.UINT256"
  | addressArray => "AbiType.ADDRESS_ARRAY"

/-- The label with the name, between angle brackets. -/
def quoted (t : AbiType) : String :=
  "<" ++ t.label ++ ": '" ++ t.name ++ "'>"

def ofName? (name : String) : Option AbiType :=
  if name = "uint256" then some uint256
  else if name = "address[]" then some addressArray
  else none

@[simp] theorem ofName?_name (t : AbiType) : ofName? t.name = some t := by
  cases t <;> decide

end AbiType

end ValidatorReader
