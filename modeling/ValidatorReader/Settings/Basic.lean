import ValidatorReader.Text.Case
import ValidatorReader.Trace

/-!
# Settings

The settings come from five environment variables, each of which may be absent and is read without
the blanks around it. The first variable that is present and unusable decides the error.
-/

namespace ValidatorReader

/-- The environment variables that are looked at. -/
structure Environment where
  address : Option String := none
  rpcUrl : Option String := none
  rpcTimeout : Option String := none
  logLevel : Option String := none
  logFile : Option String := none
deriving DecidableEq, Repr

structure Settings where
  contract : Option Address
  rpcUrl : String
  rpcTimeout : Number.Binary64
  logLevel : String
  logFile : Option String
deriving DecidableEq

namespace Settings

def defaultRpcUrl : String := "http://127.0.0.1:8545"

/-- A text unless it is empty. -/
def nonempty? (s : String) : Option String :=
  if s.isEmpty then none else some s

/-- The contract address, if one is set. -/
def readContract (raw : Option String) : Except SettingsError (Option Address) :=
  let text := Text.trim (raw.getD "")
  if text.isEmpty then .ok none
  else match Address.ofText text with
    | .ok a => .ok (some a)
    | .error cause => .error (.badAddress cause)

/-- The timeout in seconds, which is not at most zero. -/
def readTimeout (raw : Option String) : Except SettingsError Number.Binary64 :=
  let text := Text.trim (raw.getD "30")
  match Number.Binary64.ofText? text with
  | none => .error (.timeoutNotNumber (Text.quoted text))
  | some timeout => if timeout.isAtMostZero then .error .timeoutNotPositive else .ok timeout

/-- The log level in upper case. -/
def readLevel (raw : Option String) : Except SettingsError String :=
  let level := Text.upper (Text.trim (raw.getD "INFO"))
  if level ∈ settableLevels then .ok level else .error (.unknownLevel (Text.quoted level))

def readRpcUrl (raw : Option String) : String :=
  (nonempty? (Text.trim (raw.getD defaultRpcUrl))).getD defaultRpcUrl

def read (env : Environment) : Except SettingsError Settings := do
  let contract ← readContract env.address
  let rpcTimeout ← readTimeout env.rpcTimeout
  let logLevel ← readLevel env.logLevel
  return {
    contract
    rpcUrl := readRpcUrl env.rpcUrl
    rpcTimeout
    logLevel
    logFile := nonempty? (Text.trim (env.logFile.getD "")) }

/-- The record that the default endpoint is used. -/
def defaultRpcUrlRecord : LogRecord where
  logger := "validator_contract.config"
  severity := .debug
  message := s!"Using default RPC endpoint {defaultRpcUrl}"
  extra := [("event", .text "config.default_rpc_url")]

/-- Reads the settings of an environment and records it if the endpoint is the default one. -/
def ofEnvironment (env : Environment) : Traced Settings := do
  let settings ← Traced.ofExcept ((read env).mapError .settings)
  if settings.rpcUrl = defaultRpcUrl then
    Traced.emit (.logged defaultRpcUrlRecord)
  return settings

end Settings

end ValidatorReader
