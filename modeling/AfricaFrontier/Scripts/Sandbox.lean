import AfricaFrontier.Kora.KoraCalls
import AfricaFrontier.Python.Words

/-!
# Scripts for the Kora sandbox

What the two scripts under `scripts/` that talk to Kora have in common: both read their
settings from the environment, and refuse to run unless it names the sandbox and the key is a
test key; and both end their process the same way.

The environment of a process is a function from names to texts; what a script draws at random is
given with it. `SandboxSettings` is the fact the two checks at the start leave behind, and is
carried along by whatever the script does afterwards.
-/

namespace AfricaFrontier

open Python Dialogue

/-- The environment variables, eight random bytes, and what else a script asks its host. -/
structure ScriptHost extends KoraHost where
  getenv : String → Option String
  /-- `os.urandom(8).hex()`. -/
  urandomHex : String
  /-- `float(text)` raises nothing. -/
  isFloat : String → Bool
  /-- The settings that do not concern Kora pass their validators. -/
  validates : Bool

/-- `os.getenv(key, default)`. -/
def ScriptHost.env (host : ScriptHost) (key default : String) : String :=
  (host.getenv key).getD default

/-- `settings_from_env`. -/
def ScriptHost.settingsFromEnv (host : ScriptHost) : Except KoraRaise KoraSettings :=
  let secret := host.env "KORA_SECRET_KEY" ""
  if host.lower (host.env "KORA_SANDBOX" "") ≠ "true" then
    .error (.runtime "Refusing to run: KORA_SANDBOX=true is required")
  else if startsWith secret "sk_test_" = false then
    .error (.runtime "Refusing to run: KORA_SECRET_KEY must be a Kora test key")
  else if host.validates = false then .error .other
  else
    .ok
      { secretKey := secret
        apiBaseUrl := host.env "KORA_API_BASE_URL" "https://api.korapay.com/merchant/api/v1" }

/-- The script may run with these settings: in the sandbox, with a test key. -/
structure SandboxSettings (host : ScriptHost) (settings : KoraSettings) : Prop where
  sandbox : host.lower (host.env "KORA_SANDBOX" "") = "true"
  testKey : startsWith settings.secretKey "sk_test_" = true

/-- Settings that were read are those of the sandbox. -/
theorem SandboxSettings.of_env {host : ScriptHost} {settings : KoraSettings}
    (h : host.settingsFromEnv = .ok settings) : SandboxSettings host settings := by
  simp only [ScriptHost.settingsFromEnv] at h
  split_ifs at h with hsandbox hkey
  obtain rfl := Except.ok.inj h
  exact ⟨not_not.mp hsandbox, (Bool.not_eq_false _).mp hkey⟩

/-- Their key is not empty. -/
theorem SandboxSettings.secretKey_ne {host : ScriptHost} {settings : KoraSettings}
    (h : SandboxSettings host settings) : settings.secretKey ≠ "" := by
  intro hempty
  have htest := h.testKey
  rw [hempty] at htest
  exact absurd htest (by decide)

/-- How the process ends: the handler of `__main__` knows `RuntimeError`. -/
def exitCode : Except KoraRaise ℕ → ℕ
  | .ok code => code
  | .error (.client _) => 2
  | .error (.runtime _) => 2
  | .error .other => 1

/-- Who ends with an error does not end with zero. -/
theorem exitCode_error (e : KoraRaise) : exitCode (.error e) ≠ 0 := by
  cases e <;> simp [exitCode]

/-- What was exchanged. -/
abbrev Transcript := List (KoraRequest × HttpOutcome)

end AfricaFrontier
