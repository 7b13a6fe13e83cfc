import ValidatorReader.Proofs.Address.Text
import ValidatorReader.Proofs.Events
import ValidatorReader.Settings.Basic

/-!
# Usable settings

An environment gives settings if its contract, its timeout and its log level can be read. The contract
is the one whose text the environment holds.
-/

namespace ValidatorReader

namespace Settings

variable {env : Environment} {settings : Settings} {s : String} {a : Address}

/-- Settings are read one by one. -/
theorem read_eq_ok_iff :
    read env = .ok settings ↔
      readContract env.address = .ok settings.contract ∧
      readTimeout env.rpcTimeout = .ok settings.rpcTimeout ∧
      readLevel env.logLevel = .ok settings.logLevel ∧
      readRpcUrl env.rpcUrl = settings.rpcUrl ∧
      nonempty? (Text.trim (env.logFile.getD "")) = settings.logFile := by
  unfold read
  constructor
  · intro h
    cases hcontract : readContract env.address with
    | error e =>
      rw [hcontract] at h
      cases h
    | ok contract =>
      cases htimeout : readTimeout env.rpcTimeout with
      | error e =>
        rw [hcontract, htimeout] at h
        cases h
      | ok timeout =>
        cases hlevel : readLevel env.logLevel with
        | error e =>
          rw [hcontract, htimeout, hlevel] at h
          cases h
        | ok level =>
          rw [hcontract, htimeout, hlevel] at h
          cases h
          simp only [and_self]
  · rintro ⟨hcontract, htimeout, hlevel, hurl, hfile⟩
    rw [hcontract, htimeout, hlevel, hurl, hfile]
    rfl

/-- The record that reading usable settings leaves. -/
def readingEvents (settings : Settings) : List Event :=
  if settings.rpcUrl = defaultRpcUrl then [.logged defaultRpcUrlRecord] else []

/-- Settings that are read leave the records of their reading. -/
theorem ofEnvironment_of_ok (h : read env = .ok settings) :
    ofEnvironment env = ⟨readingEvents settings, .ok settings⟩ := by
  unfold ofEnvironment readingEvents
  rw [h]
  simp only [Except.mapError, Traced.ofExcept_ok_bind]
  by_cases hdefault : settings.rpcUrl = defaultRpcUrl
  · rw [if_pos hdefault, if_pos hdefault, Traced.emit_bind]
    rfl
  · rw [if_neg hdefault, if_neg hdefault]
    rfl

theorem ofEnvironment_of_error {e : SettingsError} (h : read env = .error e) :
    ofEnvironment env = .fail (.settings e) := by
  rw [ofEnvironment, h]
  exact Traced.ofExcept_error_bind _ _

theorem nonempty?_of_ne (h : s ≠ "") : nonempty? s = some s := by
  rw [nonempty?, if_neg]
  rwa [String.isEmpty_iff]

theorem readContract_of_ofText (h : Address.ofText s = .ok a) :
    readContract (some s) = .ok (some a) := by
  have hne : ¬ s.isEmpty = true := by
    rw [String.isEmpty_iff]
    exact Address.ne_empty_of_ofText h
  simp [readContract, Address.trim_of_ofText h, hne, h]

/-- The contract of the settings is the one whose text the environment holds. -/
theorem contract_of_read (hread : read env = .ok settings) (henv : env.address = some s)
    (h : Address.ofText s = .ok a) : settings.contract = some a := by
  obtain ⟨hcontract, _⟩ := read_eq_ok_iff.1 hread
  rw [henv, readContract_of_ofText h] at hcontract
  exact (Except.ok.inj hcontract).symm

/-- An environment that holds an address and nothing else gives settings. -/
theorem exists_read_address (h : Address.ofText s = .ok a) :
    ∃ settings, read { address := some s } = .ok settings ∧ settings.contract = some a := by
  have hlevel : readLevel none = .ok "INFO" := by cbv
  have hok : (readTimeout none).isOk = true := by decide +kernel
  cases htimeout : readTimeout none with
  | error e =>
    rw [htimeout] at hok
    cases hok
  | ok timeout =>
    refine ⟨⟨some a, readRpcUrl none, timeout, "INFO",
      nonempty? (Text.trim ((none : Option String).getD ""))⟩, ?_, rfl⟩
    rw [read_eq_ok_iff]
    dsimp only
    exact ⟨readContract_of_ofText h, htimeout, hlevel, rfl, rfl⟩

end Settings

end ValidatorReader
