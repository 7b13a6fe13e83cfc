import ValidatorReader.Address.Coercion
import ValidatorReader.Value.Integer

/-!
# Decoded values

A decoded value carries its type: a `uint256` stays below its bound, and an `address[]` is a list of
addresses in order. A truth value may take the place of a `uint256` and keeps its own form.
-/

namespace ValidatorReader.Abi

/-- A value tagged with its type. -/
inductive TypedValue
  | uint256 (n : Nat) (lt_bound : n < uint256Bound)
  | truth (b : Bool)
  | addresses (as : List Address)
deriving DecidableEq

namespace TypedValue

def type : TypedValue → AbiType
  | uint256 _ _ => .uint256
  | truth _ => .uint256
  | addresses _ => .addressArray

/-- The name of the class of a value in messages. -/
def className : TypedValue → String
  | addresses _ => "AddressArrayValue"
  | _ => "Uint256Value"

/-- The `uint256` that an integer is, if it is in range. -/
def ofInt (n : Int) : Except Failure TypedValue :=
  if h : n.toNat < uint256Bound ∧ 0 ≤ n then .ok (uint256 n.toNat h.1)
  else .error (.uint256OutOfRange (toString n))

/-- The `uint256` made of a value that must be a number or a truth value. -/
def ofNumber : Value → Except Failure TypedValue
  | .int n => ofInt n
  | .bool b => .ok (truth b)
  | v => .error (.shape (.notComparable v.kind))

/-- Wraps a raw value as a value of a type: an integer in any form that has one, or the addresses
that the items of a collection spell. -/
def wrap : AbiType → Value → Except Failure TypedValue
  | .uint256, raw => raw.toInteger >>= ofInt
  | .addressArray, raw =>
    match raw.items? with
    | none => .error (.shape (.notIterable raw.kind))
    | some items => addresses <$> items.mapM Address.ofTextValue

/-- Wraps a raw value as a value of what should be a type. -/
def wrapAs : Value → Value → Except Failure TypedValue
  | .abiType t, raw => wrap t raw
  | type, _ => .error (.unsupportedType type.display)

end TypedValue

end ValidatorReader.Abi
