import ValidatorReader.Failure

/-!
# Block arguments

A block is given by the word `latest` or by its number in any notation for integer literals.
-/

namespace ValidatorReader

/-- The block that a reading is made at. -/
inductive BlockChoice
  | latest
  | number (n : Nat)
deriving DecidableEq, Repr

def BlockChoice.ofText (s : String) : Except BlockError BlockChoice :=
  if s = "latest" then .ok latest
  else match Number.readLiteral? s.toList with
    | none => .error (.notANumber (Text.quoted s))
    | some (.ofNat n) => .ok (number n)
    | some (.negSucc _) => .error .negative

end ValidatorReader
