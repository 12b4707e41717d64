import HttpService.Proofs.Settings.Encoding
import HttpService.Proofs.Text.Utf8
import HttpService.Settings.Conversion

/-!
# Valid settings can be put to work

Three rules of validation are checked a second time by what is built from settings: the order of the
waits between retries, the length of the secret, and the address to listen at. Settings are refused
by such a rule exactly if they cannot be put to work there, and valid settings give components that
have their numbers.
-/

namespace HttpService

/-! ## Numbers as spans of time -/

/-- So many whole seconds, and no more than a span can hold. -/
structure Span.IsSeconds (d : Span) (n : Nat) : Prop where
  whole : d.seconds = n
  exact : d.subsec = 0
  fits : d.nanos ≤ max.nanos

structure Span.IsMillis (d : Span) (n : Nat) : Prop where
  whole : d.millis = n
  exact : d.nanos % nanosPerMilli = 0
  fits : d.nanos ≤ max.nanos

namespace Span

theorem isSeconds_ofSeconds {n : Nat} (le : n ≤ wordBound) : (ofSeconds n).IsSeconds n where
  whole := Nat.mul_div_cancel n (by decide)
  exact := Nat.mul_mod_left n nanosPerSecond
  fits := by
    have lt : n < Nat.pow 2 64 := Nat.lt_of_le_of_lt le (by decide)
    exact Nat.le_sub_one_of_lt (Nat.mul_lt_mul_of_pos_right lt (by decide))

theorem isMillis_ofMillis {n : Nat} (le : n ≤ wordBound) : (ofMillis n).IsMillis n where
  whole := Nat.mul_div_cancel n (by decide)
  exact := Nat.mul_mod_left n nanosPerMilli
  fits := by
    have lt : n < Nat.pow 2 64 := Nat.lt_of_le_of_lt le (by decide)
    have finer : nanosPerMilli ≤ nanosPerSecond := by decide
    exact Nat.le_sub_one_of_lt (Nat.mul_lt_mul_of_lt_of_le lt finer (by decide))

end Span

/-! ## Rules one after the other -/

section

variable {rule rest : Except SettingsFault Unit} {condition : Bool} {fault : SettingsFault}

theorem rule_seq_of_ok (holds : rule = .ok ()) : (do rule; rest) = rest := by
  rw [holds]
  rfl

theorem rule_seq_of_rest_ok (holds : rest = .ok ()) : (do rule; rest) = rule := by
  cases rule with
  | ok _ => exact holds
  | error fault => rfl

theorem demand_eq_ok : demand condition fault = .ok () ↔ condition = true := by
  cases condition <;> simp [demand]

theorem demand_eq_error : demand condition fault = .error fault ↔ condition = false := by
  cases condition <;> simp [demand]

end

/-! ## The waits between retries -/

namespace RetryPolicy

variable {retries : Nat} {base cap : Span}

theorem new_of_le (ordered : base.nanos ≤ cap.nanos) :
    new retries base cap = .ok ⟨retries, base, cap, isTransient⟩ :=
  if_neg (Nat.not_lt.mpr ordered)

theorem new_of_lt (disordered : cap.nanos < base.nanos) :
    ∃ f, new retries base cap = .error f :=
  ⟨_, if_pos disordered⟩

end RetryPolicy

/-- A client is configured as settings say. -/
structure ClientConfig.Carries (c : ClientConfig) (s : ClientSettings) : Prop where
  baseUrl : c.baseUrl = s.baseUrl
  timeout : c.timeout.IsSeconds s.timeoutSecs
  maxRetries : c.retry.maxRetries = s.retry.maxRetries
  baseInterval : c.retry.baseInterval.IsMillis s.retry.baseIntervalMs
  maxBackoff : c.retry.maxBackoff.IsMillis s.retry.maxBackoffMs

namespace ClientSettings

variable {s : ClientSettings}

/-- The configuration that the settings ask for, if their waits are in order. -/
def wanted (s : ClientSettings) : ClientConfig where
  baseUrl := s.baseUrl
  timeout := .ofSeconds s.timeoutSecs
  retry := ⟨s.retry.maxRetries, .ofMillis s.retry.baseIntervalMs, .ofMillis s.retry.maxBackoffMs,
    RetryPolicy.isTransient⟩

theorem toConfig_eq_wanted (ordered : s.retry.baseIntervalMs ≤ s.retry.maxBackoffMs) :
    s.toConfig = .ok s.wanted := by
  have made : RetryPolicy.new s.retry.maxRetries (.ofMillis s.retry.baseIntervalMs)
      (.ofMillis s.retry.maxBackoffMs) = .ok _ :=
    RetryPolicy.new_of_le (Nat.mul_le_mul_right Span.nanosPerMilli ordered)
  rw [toConfig, made]
  rfl

theorem carries_wanted (fits : s.Fits) : s.wanted.Carries s where
  baseUrl := rfl
  timeout := Span.isSeconds_ofSeconds fits.timeout
  maxRetries := rfl
  baseInterval := Span.isMillis_ofMillis fits.retry.baseInterval
  maxBackoff := Span.isMillis_ofMillis fits.retry.maxBackoff

theorem toConfig_of_le (fits : s.Fits) (ordered : s.retry.baseIntervalMs ≤ s.retry.maxBackoffMs) :
    ∃ c, s.toConfig = .ok c ∧ c.Carries s :=
  ⟨s.wanted, toConfig_eq_wanted ordered, carries_wanted fits⟩

theorem toConfig_of_lt (disordered : s.retry.maxBackoffMs < s.retry.baseIntervalMs) :
    ∃ fault, s.toConfig = .error fault := by
  obtain ⟨f, failed⟩ : ∃ f, RetryPolicy.new s.retry.maxRetries (.ofMillis s.retry.baseIntervalMs)
      (.ofMillis s.retry.maxBackoffMs) = .error f :=
    RetryPolicy.new_of_lt (Nat.mul_lt_mul_of_pos_right disordered (by decide))
  rw [toConfig, failed]
  exact ⟨_, rfl⟩

end ClientSettings

/-! ## The secret -/

namespace TokenMaker

theorem new_of_le {secret : List UInt8} (long : minSecretLength ≤ secret.length) :
    new secret = .ok { secret := secret } :=
  if_neg (Nat.not_lt.mpr long)

theorem new_of_lt {secret : List UInt8} (short : secret.length < minSecretLength) :
    ∃ f, new secret = .error f :=
  ⟨_, if_pos short⟩

/-- Tokens are made with the secret and for the issuer that settings say. -/
structure IsFor (m : TokenMaker) (s : AuthSettings) : Prop where
  secret : s.tokenSecret.map Text.utf8 = some m.secret
  issuer : m.issuer = s.issuer

end TokenMaker

namespace AuthSettings

variable {s : AuthSettings} {secret : String}

/-- Validation and the maker of tokens ask for the same length. -/
theorem minSecretLength_eq : minSecretLength = TokenMaker.minSecretLength :=
  rfl

theorem toMaker_of_le (given : s.tokenSecret = some secret)
    (long : minSecretLength ≤ secret.utf8ByteSize) :
    ∃ m, s.toMaker = .ok m ∧ m.IsFor s := by
  rw [minSecretLength_eq, ← Text.length_utf8] at long
  have made := TokenMaker.new_of_le long
  rw [toMaker, given]
  simp only [made]
  cases issued : s.issuer with
  | none => exact ⟨_, rfl, congrArg _ given, issued.symm⟩
  | some issuer => exact ⟨_, rfl, congrArg _ given, issued.symm⟩

theorem toMaker_of_lt (given : s.tokenSecret = some secret)
    (short : secret.utf8ByteSize < minSecretLength) :
    ∃ fault, s.toMaker = .error fault := by
  rw [minSecretLength_eq, ← Text.length_utf8] at short
  obtain ⟨f, failed⟩ := TokenMaker.new_of_lt short
  rw [toMaker, given]
  simp only [failed]
  exact ⟨_, rfl⟩

theorem toMaker_of_none (absent : s.tokenSecret = none) : ∃ fault, s.toMaker = .error fault := by
  rw [toMaker, absent]
  exact ⟨_, rfl⟩

/-- The rules that are not about the secret. -/
theorem other_rules_of_valid (valid : s.validate = .ok ()) :
    (do
      positive "auth.token_expiration_minutes" s.tokenExpirationMinutes
      match s.publicPaths.find? fun p => !Text.startsWith p "/" with
      | none => .ok ()
      | some path =>
          .error (.invalidValue "auth.public_paths"
            (Text.quoted path ++ " must start with '/'"))) = .ok () := by
  unfold validate at valid
  cases given : s.tokenSecret with
  | none =>
      rw [given] at valid
      exact valid
  | some secret =>
      rw [given] at valid
      exact (rule_seq_eq_ok.mp valid).2

end AuthSettings

/-! ## The server and the limit -/

/-- A server is configured as settings say. -/
structure ServerConfig.Carries (c : ServerConfig) (s : ServerSettings) : Prop where
  bindAddr : c.bindAddr = s.bindAddr
  readTimeout : c.readTimeout.IsSeconds s.readTimeoutSecs
  writeTimeout : c.writeTimeout.IsSeconds s.writeTimeoutSecs
  idleTimeout : c.idleTimeout.IsSeconds s.idleTimeoutSecs
  shutdownTimeout : c.shutdownTimeout.IsSeconds s.shutdownTimeoutSecs
  maxBodyBytes : c.maxBodyBytes = s.maxBodyBytes
  tls : c.tls = s.tls.map fun files => ⟨files.cert, files.key⟩

theorem ServerSettings.carries_toConfig {s : ServerSettings} (fits : s.Fits) :
    s.toConfig.Carries s where
  bindAddr := rfl
  readTimeout := Span.isSeconds_ofSeconds fits.readTimeout
  writeTimeout := Span.isSeconds_ofSeconds fits.writeTimeout
  idleTimeout := Span.isSeconds_ofSeconds fits.idleTimeout
  shutdownTimeout := Span.isSeconds_ofSeconds fits.shutdownTimeout
  maxBodyBytes := rfl
  tls := rfl

/-- Requests are limited as settings say. -/
structure RateLimit.Carries (r : RateLimit) (s : RateLimitSettings) : Prop where
  limit : r.limit = s.limit
  window : r.window.IsSeconds s.windowSecs

theorem RateLimitSettings.toRate?_of_enabled {s : RateLimitSettings} (fits : s.Fits)
    (enabled : s.enabled = true) : ∃ r, s.toRate? = some r ∧ r.Carries s :=
  ⟨_, if_pos enabled, rfl, Span.isSeconds_ofSeconds fits.window⟩

/-! ## The rules of validation -/

namespace Settings

def withRetry (t : Settings) (retry : RetrySettings) : Settings :=
  { t with client := { t.client with retry := retry } }

def withSecret (t : Settings) (secret : Option String) : Settings :=
  { t with auth := { t.auth with tokenSecret := secret } }

def withBindAddr (t : Settings) (bindAddr : String) : Settings :=
  { t with server := { t.server with bindAddr := bindAddr } }

/-- What is reported of waits that are not in order. -/
def retryFault : SettingsFault :=
  .invalidValue "client.retry.base_interval_ms" "must not exceed client.retry.max_backoff_ms"

/-- What is reported of a secret that is too short. -/
def secretFault : SettingsFault :=
  .invalidValue "auth.token_secret" "must be at least 32 bytes"

/-- What is reported of a text that is no address. -/
def bindAddrFault (bindAddr : String) : SettingsFault :=
  .invalidValue "server.bind_addr" ("invalid socket address: " ++ bindAddr)

section

variable {t : Settings} {filters : FilterReader} (valid : t.validate filters = .ok ())

include valid

theorem validate_withRetry (retry : RetrySettings) :
    (t.withRetry retry).validate filters =
      demand (retry.baseIntervalMs ≤ retry.maxBackoffMs) retryFault := by
  obtain ⟨server, auth, client, rateLimit, logging⟩ := validate_eq_ok.mp valid
  -- The rules before the one about retries hold as they did, and so do those after it.
  obtain ⟨url, timed⟩ := rule_seq_eq_ok.mp client
  obtain ⟨timeout, -⟩ := rule_seq_eq_ok.mp timed
  have reached : (t.withRetry retry).validate filters =
      (do (t.withRetry retry).client.validate; t.rateLimit.validate; t.logging.validate filters) :=
    (rule_seq_of_ok server).trans (rule_seq_of_ok auth)
  have last : (t.withRetry retry).client.validate =
      demand (retry.baseIntervalMs ≤ retry.maxBackoffMs) retryFault :=
    (rule_seq_of_ok url).trans (rule_seq_of_ok timeout)
  rw [reached, last]
  exact rule_seq_of_rest_ok (rule_seq_eq_ok.mpr ⟨rateLimit, logging⟩)

theorem validate_withSecret (secret : String) :
    (t.withSecret (some secret)).validate filters =
      demand (AuthSettings.minSecretLength ≤ secret.utf8ByteSize) secretFault := by
  obtain ⟨server, auth, client, rateLimit, logging⟩ := validate_eq_ok.mp valid
  have reached : (t.withSecret (some secret)).validate filters =
      (do (t.withSecret (some secret)).auth.validate; t.client.validate; t.rateLimit.validate;
          t.logging.validate filters) :=
    rule_seq_of_ok server
  have unchanged := AuthSettings.other_rules_of_valid auth
  have first : (t.withSecret (some secret)).auth.validate =
      demand (AuthSettings.minSecretLength ≤ secret.utf8ByteSize) secretFault :=
    rule_seq_of_rest_ok unchanged
  rw [reached, first]
  exact rule_seq_of_rest_ok
    (rule_seq_eq_ok.mpr ⟨client, rule_seq_eq_ok.mpr ⟨rateLimit, logging⟩⟩)

theorem validate_withBindAddr (bindAddr : String) :
    (t.withBindAddr bindAddr).validate filters =
      demand (SocketAddress.parse? bindAddr).isSome (bindAddrFault bindAddr) := by
  obtain ⟨server, others⟩ := rule_seq_eq_ok.mp valid
  have alone : (t.withBindAddr bindAddr).server.validate =
      demand (SocketAddress.parse? bindAddr).isSome (bindAddrFault bindAddr) :=
    rule_seq_of_rest_ok (rule_seq_eq_ok.mp server).2
  rw [validate, alone]
  exact rule_seq_of_rest_ok others

end

/-- The settings cannot be put to work exactly if a rule refuses them. The rule is seen at work in
other settings, which are valid, with the values that it is about. -/
structure RuledBy (s t : Settings) (filters : FilterReader) : Prop where
  retry : (∃ fault, s.client.toConfig = .error fault) ↔
    (t.withRetry s.client.retry).validate filters = .error retryFault
  waits : (∃ fault, s.client.toConfig = .error fault) ↔
    s.client.retry.maxBackoffMs < s.client.retry.baseIntervalMs
  secret : (∃ fault, s.auth.toMaker = .error fault) ↔
    s.auth.tokenSecret = none ∨
      (t.withSecret s.auth.tokenSecret).validate filters = .error secretFault
  bindAddr : s.server.toConfig.socketAddr? = none ↔
    (t.withBindAddr s.server.bindAddr).validate filters =
      .error (bindAddrFault s.server.bindAddr)

/-- What settings give when they can be put to work. -/
structure Works (s : Settings) : Prop where
  server : s.server.toConfig.Carries s.server
  address : ∃ a, s.server.toConfig.socketAddr? = some a
  client : ∃ c, s.client.toConfig = .ok c ∧ c.Carries s.client
  maker : s.auth.tokenSecret.isSome = true ↔ ∃ m, s.auth.toMaker = .ok m ∧ m.IsFor s.auth
  limit : s.rateLimit.enabled = true ↔ ∃ r, s.rateLimit.toRate? = some r ∧ r.Carries s.rateLimit

variable {s t : Settings} {filters : FilterReader}

theorem toConfig_eq_error_iff (fits : s.client.Fits) : (∃ fault, s.client.toConfig = .error fault) ↔
    s.client.retry.maxBackoffMs < s.client.retry.baseIntervalMs := by
  constructor
  · rintro ⟨fault, failed⟩
    by_contra ordered
    obtain ⟨c, built, -⟩ := ClientSettings.toConfig_of_le fits (Nat.not_lt.mp ordered)
    rw [built] at failed
    cases failed
  · exact ClientSettings.toConfig_of_lt

theorem ruledBy (fits : s.Fits) (valid : t.validate filters = .ok ()) :
    s.RuledBy t filters where
  waits := toConfig_eq_error_iff fits.client
  retry := by
    rw [toConfig_eq_error_iff fits.client, validate_withRetry valid, demand_eq_error,
      decide_eq_false_iff_not, Nat.not_le]
  secret := by
    cases given : s.auth.tokenSecret with
    | none => exact iff_of_true (AuthSettings.toMaker_of_none given) (.inl rfl)
    | some secret =>
        rw [validate_withSecret valid, demand_eq_error, decide_eq_false_iff_not, Nat.not_le]
        constructor
        · rintro ⟨fault, failed⟩
          right
          by_contra long
          obtain ⟨m, built, -⟩ := AuthSettings.toMaker_of_le given (Nat.not_lt.mp long)
          rw [built] at failed
          cases failed
        · rintro (absent | short)
          · cases absent
          · exact AuthSettings.toMaker_of_lt given short
  bindAddr := by
    rw [validate_withBindAddr valid, demand_eq_error, Option.isSome_eq_false_iff,
      Option.isNone_iff_eq_none]
    rfl

/-- Valid settings are ruled by themselves: put back into them, their own values pass. -/
theorem works_of_valid (fits : s.Fits) (valid : s.validate filters = .ok ()) : s.Works where
  server := ServerSettings.carries_toConfig fits.server
  address := by
    cases parsed : s.server.toConfig.socketAddr? with
    | some a => exact ⟨a, rfl⟩
    | none =>
        have refused : s.validate filters = .error _ := (ruledBy fits valid).bindAddr.mp parsed
        rw [valid] at refused
        cases refused
  client := by
    refine ClientSettings.toConfig_of_le fits.client (Nat.not_lt.mp fun disordered => ?_)
    have ruled := ruledBy fits valid
    have refused : s.validate filters = .error _ := ruled.retry.mp (ruled.waits.mpr disordered)
    rw [valid] at refused
    cases refused
  maker := by
    cases given : s.auth.tokenSecret with
    | none =>
        obtain ⟨fault, failed⟩ := AuthSettings.toMaker_of_none given
        rw [failed]
        exact iff_of_false nofun nofun
    | some secret =>
        have self : s.withSecret (some secret) = s := given ▸ rfl
        have long := validate_withSecret valid secret
        rw [self, valid, eq_comm, demand_eq_ok, decide_eq_true_eq] at long
        exact iff_of_true rfl (AuthSettings.toMaker_of_le given long)
  limit := by
    constructor
    · exact RateLimitSettings.toRate?_of_enabled fits.rateLimit
    · rintro ⟨r, limited, -⟩
      exact (Option.ite_none_right_eq_some.mp limited).1

/-- What a rule refuses cannot be put to work, and valid settings give all that they ask for, in the
numbers that they ask for. -/
theorem validation_agrees {s : Settings} (fits : s.Fits) (filters : FilterReader) :
    (∀ t : Settings, t.validate filters = .ok () → s.RuledBy t filters) ∧
      (s.validate filters = .ok () → s.Works) :=
  ⟨fun _ => ruledBy fits, works_of_valid fits⟩

/-- Settings with the greatest numbers there are and a secret of two bytes to each character. -/
theorem validation_agrees_greatest :
    let s : Settings :=
      { server := { bindAddr := "[::1]:65535", readTimeoutSecs := wordBound }
        auth := { tokenSecret := some "éééééééééééééééé", issuer := some "dfs" }
        client :=
          { timeoutSecs := wordBound
            retry :=
              { maxRetries := halfWordBound, baseIntervalMs := wordBound
                maxBackoffMs := wordBound } }
        rateLimit := { limit := wordBound, windowSecs := wordBound } }
    s.Fits ∧ s.validate .levels = .ok () ∧ s.RuledBy {} .levels ∧ s.Works := by
  intro s
  have fits : s.Fits :=
    ⟨⟨by decide, by decide, by decide, by decide, by decide⟩, by decide,
      ⟨by decide, ⟨by decide, by decide, by decide⟩⟩, ⟨by decide, by decide⟩⟩
  have standard : ({} : Settings).validate .levels = .ok () :=
    validate_eq_ok.mpr ⟨rfl, rfl, rfl, rfl, rfl⟩
  have valid : s.validate .levels = .ok () := by
    unfold s
    exact validate_eq_ok.mpr ⟨rfl, rfl, rfl, rfl, rfl⟩
  obtain ⟨ruled, works⟩ := validation_agrees fits .levels
  exact ⟨fits, valid, ruled {} standard, works valid⟩

end Settings

end HttpService
