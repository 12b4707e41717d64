import HttpService.Net.Address
import HttpService.Settings.Basic
import HttpService.Settings.Fault
import HttpService.Telemetry.LogConfig
import HttpService.Text.Quoted
import HttpService.Text.Split

/-!
# Valid settings

Settings are valid if every section is. The first rule that is broken is reported, the sections in
the order server, authentication, client, rate limit and logging. The level of logging is a filter
that a reader of filters accepts.
-/

namespace HttpService

/-- A value that a rule refuses unless the condition holds. -/
def demand (condition : Bool) (fault : SettingsFault) : Except SettingsFault Unit :=
  if condition then .ok () else .error fault

/-- A number must not be zero. -/
def positive (field : String) (n : Nat) : Except SettingsFault Unit :=
  demand (n != 0) (.invalidValue field "must be positive")

/-- Rules one after the other hold if each does. -/
theorem rule_seq_eq_ok {rule rest : Except SettingsFault Unit} :
    (do rule; rest) = .ok () ↔ rule = .ok () ∧ rest = .ok () := by
  cases rule with
  | ok _ => exact ⟨fun holds => ⟨rfl, holds⟩, fun holds => holds.2⟩
  | error fault =>
      constructor
      · intro fails
        cases fails
      · rintro ⟨fails, -⟩
        cases fails

theorem positive_eq_ok {field : String} {n : Nat} : positive field n = .ok () ↔ 0 < n := by
  unfold positive demand
  split
  · next holds => simpa [Nat.pos_iff_ne_zero] using holds
  · next fails => simpa using fails

def ServerSettings.validate (s : ServerSettings) : Except SettingsFault Unit := do
  demand (SocketAddress.parse? s.bindAddr).isSome
    (.invalidValue "server.bind_addr" ("invalid socket address: " ++ s.bindAddr))
  positive "server.read_timeout_secs" s.readTimeoutSecs
  positive "server.write_timeout_secs" s.writeTimeoutSecs
  positive "server.max_body_bytes" s.maxBodyBytes
  match s.tls with
  | none => .ok ()
  | some tls => do
      demand (!tls.cert.isEmpty) (.missingField "server.tls.cert")
      demand (!tls.key.isEmpty) (.missingField "server.tls.key")

/-- The shortest secret that is accepted, in bytes. -/
def AuthSettings.minSecretLength : Nat := 32

def AuthSettings.validate (s : AuthSettings) : Except SettingsFault Unit := do
  match s.tokenSecret with
  | none => .ok ()
  | some secret =>
      demand (minSecretLength ≤ secret.utf8ByteSize)
        (.invalidValue "auth.token_secret"
          ("must be at least " ++ toString minSecretLength ++ " bytes"))
  positive "auth.token_expiration_minutes" s.tokenExpirationMinutes
  match s.publicPaths.find? fun p => !Text.startsWith p "/" with
  | none => .ok ()
  | some path =>
      .error (.invalidValue "auth.public_paths" (Text.quoted path ++ " must start with '/'"))

def ClientSettings.validate (s : ClientSettings) : Except SettingsFault Unit := do
  demand (Text.startsWith s.baseUrl "http://" || Text.startsWith s.baseUrl "https://")
    (.invalidValue "client.base_url" ("expected an http(s) URL, got " ++ Text.quoted s.baseUrl))
  positive "client.timeout_secs" s.timeoutSecs
  demand (s.retry.baseIntervalMs ≤ s.retry.maxBackoffMs)
    (.invalidValue "client.retry.base_interval_ms" "must not exceed client.retry.max_backoff_ms")

/-- A limit that is not enabled may have any numbers. -/
def RateLimitSettings.validate (s : RateLimitSettings) : Except SettingsFault Unit :=
  if s.enabled then do
    positive "rate_limit.limit" s.limit
    positive "rate_limit.window_secs" s.windowSecs
  else .ok ()

def LoggingSettings.validate (s : LoggingSettings) (filters : FilterReader) :
    Except SettingsFault Unit :=
  match filters.check s.level with
  | .ok () => .ok ()
  | .error f => .error (.invalidValue "logging.level" f.message)

theorem LoggingSettings.validate_eq_ok {s : LoggingSettings} {filters : FilterReader} :
    s.validate filters = .ok () ↔ filters.read s.level = .ok () := by
  rw [← FilterReader.check_eq_ok, validate]
  cases filters.check s.level <;> simp

/-- The level that is logged unless settings say otherwise is one of the names. -/
theorem LoggingSettings.validate_standard {filters : FilterReader} (knows : filters.KnowsLevels) :
    LoggingSettings.validate {} filters = .ok () :=
  validate_eq_ok.mpr (knows "info" (by decide))

def Settings.validate (s : Settings) (filters : FilterReader) : Except SettingsFault Unit := do
  s.server.validate
  s.auth.validate
  s.client.validate
  s.rateLimit.validate
  s.logging.validate filters

theorem Settings.validate_eq_ok {s : Settings} {filters : FilterReader} :
    s.validate filters = .ok () ↔ s.server.validate = .ok () ∧ s.auth.validate = .ok () ∧
      s.client.validate = .ok () ∧ s.rateLimit.validate = .ok () ∧
      s.logging.validate filters = .ok () := by
  simp only [validate, rule_seq_eq_ok]

end HttpService
