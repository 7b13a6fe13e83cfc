import ValidatorReader.Contract.Signature
import ValidatorReader.Trace

/-!
# Registries of functions

A registry holds signatures under their names, in the order in which they were given. No two of its
signatures have the same name.
-/

namespace ValidatorReader

/-- Signatures with different names, in order. -/
structure Registry where
  signatures : List Signature
  nodup_names : (signatures.map Signature.name).Nodup

namespace Registry

def names (r : Registry) : List String :=
  r.signatures.map Signature.name

def size (r : Registry) : Nat :=
  r.signatures.length

/-- The first signature whose name has occurred before it. -/
def firstDuplicate? (seen : List String) : List Signature → Option Signature
  | [] => none
  | f :: rest => if f.name ∈ seen then some f else firstDuplicate? (f.name :: seen) rest

/-- The names seen so far are part of the statement, since the scan carries them along. -/
theorem nodup_of_firstDuplicate?_eq_none {seen : List String} {signatures : List Signature}
    (h : firstDuplicate? seen signatures = none) :
    (signatures.map Signature.name).Nodup ∧ ∀ f ∈ signatures, f.name ∉ seen := by
  induction signatures generalizing seen with
  | nil => simp
  | cons f rest ih =>
    simp only [firstDuplicate?] at h
    split at h
    · simp at h
    · rename_i hf
      obtain ⟨hnodup, hseen⟩ := ih h
      refine ⟨?_, ?_⟩
      · simp only [List.map_cons, List.nodup_cons, List.mem_map, not_exists, not_and]
        exact ⟨fun g hg heq => hseen g hg (by simp [heq]), hnodup⟩
      · intro g hg
        rcases List.mem_cons.1 hg with rfl | hg
        · exact hf
        · exact fun hmem => hseen g hg (List.mem_cons_of_mem _ hmem)

/-- The registry of the given signatures, whose names must differ. -/
def ofList (signatures : List Signature) : Except SignatureError Registry :=
  match h : firstDuplicate? [] signatures with
  | some f => .error (.duplicate f.name)
  | none => .ok ⟨signatures, (nodup_of_firstDuplicate?_eq_none h).1⟩

def find? (r : Registry) (name : String) : Option Signature :=
  r.signatures.find? (·.name = name)

/-- The failure for a name that no function has. -/
def unknownFunction (name : Value) : CallError where
  kind := .unknownFunction
  message := s!"Unknown smart contract function: {name.display}"
  details := .dict [("function", name)]

/-- The signature under a value, which is one only if the value is a name of the registry. -/
def get (r : Registry) (name : Value) : Except Failure Signature :=
  match name.unhashable? with
  | some kind => .error (.shape (.notKey kind))
  | none =>
    match name with
    | .text s =>
      match r.find? s with
      | some f => .ok f
      | none => .error (.call (unknownFunction name))
    | _ => .error (.call (unknownFunction name))

/-- Whether a value is a name of the registry. -/
def contains (r : Registry) (name : Value) : Except Failure Bool :=
  match name.unhashable? with
  | some kind => .error (.shape (.notKey kind))
  | none =>
    match name with
    | .text s => .ok (r.find? s).isSome
    | _ => .ok false

end Registry

/-! ## The functions of the validator contract -/

def getValidators : Signature where
  name := "getValidators"
  returnTypes := [.addressArray]

def getEpochCounter : Signature where
  name := "getEpochCounter"
  returnTypes := [.uint256]

namespace Registry

/-- The registry of two functions, one that returns addresses and one that returns a number. -/
def ofNames (addresses number : Value) : Except SignatureError Registry := do
  let first ← Signature.ofValues addresses [] [.abiType .addressArray]
  let second ← Signature.ofValues number [] [.abiType .uint256]
  ofList [first, second]

def validatorContract : Registry where
  signatures := [getValidators, getEpochCounter]
  nodup_names := by decide

/-- The record of a new registry. -/
def creationRecord (r : Registry) : LogRecord where
  logger := "validator_contract.signatures"
  severity := .debug
  message := s!"Selector registry created with {r.size} functions"
  extra := [("event", .text "validator_contract.registry_created"),
    ("functions", .list (r.names.map .text))]

/-- Makes a registry of two functions and records it. -/
def create (addresses number : Value) : Traced Registry :=
  match ofNames addresses number with
  | .error cause => .fail (.registry cause)
  | .ok r => do
    Traced.emit (.logged r.creationRecord)
    return r

end Registry

end ValidatorReader
