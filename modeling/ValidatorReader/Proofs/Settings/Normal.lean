import ValidatorReader.Proofs.Settings.Timeout

/-!
# Settings in normal form

Settings can be written back into the variables that they came from. Reading those again gives the same
settings and leaves the same record: blanks around a text are gone after one reading, a level stands in
upper case, a contract in its lower-case form, and an empty text stands for what is not set.
-/

namespace ValidatorReader

variable {env : Environment} {settings : Settings} {raw : Option String} {s : String}

/-- The environment in which settings stand in the variables that they came from, but for the timeout,
whose text stays. -/
def Environment.restate (env : Environment) (settings : Settings) : Environment :=
  { env with
    address := some ((settings.contract.map Address.toHex).getD "")
    rpcUrl := some settings.rpcUrl
    logLevel := some settings.logLevel
    logFile := some (settings.logFile.getD "") }

namespace Settings

/-! ## One variable at a time -/

theorem nonempty?_getD_empty (s : String) : nonempty? ((nonempty? s).getD "") = nonempty? s := by
  by_cases h : s = ""
  · rw [h]
    rfl
  · rw [nonempty?_of_ne h, Option.getD_some, nonempty?_of_ne h]

theorem readContract_toHex (contract : Option Address) :
    readContract (some ((contract.map Address.toHex).getD "")) = .ok contract := by
  cases contract with
  | none => rfl
  | some a => exact readContract_of_ofText a.ofText_toHex

theorem readLevel_of_mem (h : s ∈ settableLevels) : readLevel (some s) = .ok s := by
  have hlevels : ∀ level ∈ settableLevels, Text.upper (Text.trim level) = level := by
    decide +kernel
  rw [readLevel, Option.getD_some, hlevels s h, if_pos h]

theorem mem_settableLevels_of_readLevel (h : readLevel raw = .ok s) : s ∈ settableLevels := by
  unfold readLevel at h
  dsimp only at h
  split at h
  case isTrue hlevel => exact Except.ok.inj h ▸ hlevel
  case isFalse => cases h

/-- An address of a node that was read is its own normal form. -/
theorem readRpcUrl_readRpcUrl (raw : Option String) :
    readRpcUrl (some (readRpcUrl raw)) = readRpcUrl raw := by
  by_cases hurl : Text.trim (raw.getD defaultRpcUrl) = ""
  · have hdefault : readRpcUrl raw = defaultRpcUrl := by
      rw [readRpcUrl, hurl]
      rfl
    rw [hdefault]
    decide +kernel
  · have htrimmed : readRpcUrl raw = Text.trim (raw.getD defaultRpcUrl) := by
      rw [readRpcUrl, nonempty?_of_ne hurl, Option.getD_some]
    rw [htrimmed, readRpcUrl, Option.getD_some, Text.trim_trim, nonempty?_of_ne hurl,
      Option.getD_some]

theorem trim_getD_nonempty?_trim (s : String) :
    Text.trim ((nonempty? (Text.trim s)).getD "") = (nonempty? (Text.trim s)).getD "" := by
  by_cases h : Text.trim s = ""
  · rw [h]
    rfl
  · rw [nonempty?_of_ne h, Option.getD_some, Text.trim_trim]

/-! ## All variables -/

/-- Settings are read back from the variables that they are written into. -/
theorem read_restate (h : read env = .ok settings) : read (env.restate settings) = .ok settings := by
  obtain ⟨-, htimeout, hlevel, hurl, hfile⟩ := read_eq_ok_iff.1 h
  rw [read_eq_ok_iff]
  refine ⟨readContract_toHex settings.contract, htimeout, ?_, ?_, ?_⟩
  · exact readLevel_of_mem (mem_settableLevels_of_readLevel hlevel)
  · show readRpcUrl (some settings.rpcUrl) = settings.rpcUrl
    rw [← hurl, readRpcUrl_readRpcUrl]
  · show nonempty? (Text.trim ((some (settings.logFile.getD "")).getD "")) = settings.logFile
    rw [Option.getD_some, ← hfile, trim_getD_nonempty?_trim, nonempty?_getD_empty]

/-- Settings are in normal form after one reading: the variables that they are written into give the
same settings with the same record. -/
theorem ofEnvironment_restate (h : (ofEnvironment env).result = .ok settings) :
    ofEnvironment (env.restate settings) = ofEnvironment env := by
  have hread : read env = .ok settings := read_of_ofEnvironment h
  rw [ofEnvironment_of_ok hread, ofEnvironment_of_ok (read_restate hread)]

/-- Blanks around texts, an address without its zeros, a level whose first letter has no dot, a blank
text for the file, and not-a-number. -/
def untidyEnvironment : Environment where
  address := some " 0XaB\t"
  rpcUrl := some "\u2003http://node:8545\n"
  rpcTimeout := some "+NaN"
  logLevel := some " ınfo"
  logFile := some "\u3000"

def tidySettings : Settings where
  contract := some ⟨List.replicate 19 0 ++ [0xab], rfl⟩
  rpcUrl := "http://node:8545"
  rpcTimeout := .nan
  logLevel := "INFO"
  logFile := none

/-- The settings of an untidy environment, written out in their normal form and read again. -/
theorem ofEnvironment_restate_untidy :
    (ofEnvironment untidyEnvironment).result = .ok tidySettings ∧
      ofEnvironment (untidyEnvironment.restate tidySettings) = ofEnvironment untidyEnvironment ∧
      untidyEnvironment.restate tidySettings =
        { address := some "0x00000000000000000000000000000000000000ab"
          rpcUrl := some "http://node:8545"
          rpcTimeout := some "+NaN"
          logLevel := some "INFO"
          logFile := some "" } := by
  have hresult : (ofEnvironment untidyEnvironment).result = .ok tidySettings := by rfl
  exact ⟨hresult, ofEnvironment_restate hresult, by decide +kernel⟩

end Settings

end ValidatorReader
