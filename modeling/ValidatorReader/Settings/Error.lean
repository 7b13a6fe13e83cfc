import ValidatorReader.Address.Basic

/-!
# Settings errors

Why the environment does not give usable settings.
-/

namespace ValidatorReader

inductive SettingsError
  | badAddress (cause : AddressError)
  | timeoutNotNumber (quoted : String)
  | timeoutNotPositive
  | unknownLevel (quoted : String)
deriving DecidableEq, Repr

def settableLevels : List String :=
  ["DEBUG", "INFO", "WARNING", "ERROR", "CRITICAL"]

def SettingsError.message : SettingsError → String
  | badAddress cause => s!"VALIDATOR_CONTRACT_ADDRESS is invalid: {cause.message}"
  | timeoutNotNumber quoted => s!"VALIDATOR_CONTRACT_RPC_TIMEOUT must be a number, got {quoted}"
  | timeoutNotPositive => "VALIDATOR_CONTRACT_RPC_TIMEOUT must be positive"
  | unknownLevel quoted =>
    let levels := ", ".intercalate settableLevels
    s!"VALIDATOR_CONTRACT_LOG_LEVEL must be one of {levels}, got {quoted}"

inductive BlockError
  | notANumber (quoted : String)
  | negative
deriving DecidableEq, Repr

def BlockError.message : BlockError → String
  | notANumber quoted => s!"expected a block number or 'latest', got {quoted}"
  | negative => "block number must not be negative"

end ValidatorReader
