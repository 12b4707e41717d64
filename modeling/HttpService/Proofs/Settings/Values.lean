import HttpService.Proofs.Settings.Reading

/-!
# The values of settings

Settings are the values that they hold, one for each name, and whether there is a section for the
files of the server. Setting a value from a text reads the text as a value of that kind and puts it
in its place; every other value stays.
-/

namespace HttpService

namespace Setting

/-- What values a name stands for. -/
def Value : Setting → Type
  | bindAddr | tlsCert | tlsKey | baseUrl | logLevel => String
  | tokenSecret | issuer => Option String
  | publicPaths => List String
  | readTimeout | writeTimeout | idleTimeout | shutdownTimeout | maxBodyBytes | tokenExpiration
  | clientTimeout | maxRetries | baseInterval | maxBackoff | rateLimit | rateLimitWindow => Nat
  | rateLimitEnabled | loggingEnabled => Bool
  | logFormat => LogFormat

/-- The value that a text stands for. -/
def parse (text : String) : (setting : Setting) → Except String setting.Value
  | bindAddr | tlsCert | tlsKey | baseUrl | logLevel => .ok text
  | tokenSecret | issuer => .ok (optional text)
  | publicPaths => .ok (paths text)
  | maxRetries => number halfWordBound text
  | readTimeout | writeTimeout | idleTimeout | shutdownTimeout | maxBodyBytes | tokenExpiration
  | clientTimeout | baseInterval | maxBackoff | rateLimit | rateLimitWindow =>
      number wordBound text
  | rateLimitEnabled | loggingEnabled => truth text
  | logFormat => format text

/-- What a text says about each value: texts stand for themselves, and the others for what can be
read in them. Numbers have a word, and the number of retries half of one. -/
def Means (text : String) : (setting : Setting) → setting.Value → Prop
  | bindAddr, value | tlsCert, value | tlsKey, value | baseUrl, value | logLevel, value =>
      value = text
  | tokenSecret, value | issuer, value => Cleared text value
  | publicPaths, names => Text.Listing text.toList names
  | maxRetries, n => Counts halfWordBound text n
  | readTimeout, n | writeTimeout, n | idleTimeout, n | shutdownTimeout, n | maxBodyBytes, n
  | tokenExpiration, n | clientTimeout, n | baseInterval, n | maxBackoff, n | rateLimit, n
  | rateLimitWindow, n => Counts wordBound text n
  | rateLimitEnabled, b | loggingEnabled, b => IsNamed (truthNames b) text
  | logFormat, f => IsNamed [f.name] text

/-- Reading finds what the text says, and fails if it says nothing. -/
theorem parse_eq_ok_iff {setting : Setting} {text : String} {value : setting.Value} :
    setting.parse text = .ok value ↔ setting.Means text value := by
  have itself {text other : String} : (.ok text : Except String String) = .ok other ↔
      other = text := by
    rw [Except.ok.injEq, eq_comm]
  have cleared {text : String} {value : Option String} :
      (.ok (optional text) : Except String (Option String)) = .ok value ↔ Cleared text value := by
    rw [Except.ok.injEq, optional_eq_iff]
  have listed {text : String} {names : List String} :
      (.ok (paths text) : Except String (List String)) = .ok names ↔
        Text.Listing text.toList names := by
    rw [Except.ok.injEq, paths_eq_iff]
  cases setting with
  | bindAddr | tlsCert | tlsKey | baseUrl | logLevel => exact itself
  | tokenSecret | issuer => exact cleared
  | publicPaths => exact listed
  | rateLimitEnabled | loggingEnabled => exact truth_eq_ok_iff
  | logFormat => exact format_eq_ok_iff
  | _ => exact number_eq_ok_iff

theorem Means.unique {setting : Setting} {text : String} {value other : setting.Value}
    (means : setting.Means text value) (means' : setting.Means text other) : value = other :=
  Except.ok.inj ((parse_eq_ok_iff.mpr means).symm.trans (parse_eq_ok_iff.mpr means'))

/-- The value that settings hold. A file of the server counts as empty if there is no section. -/
def held (s : Settings) : (setting : Setting) → setting.Value
  | bindAddr => s.server.bindAddr
  | readTimeout => s.server.readTimeoutSecs
  | writeTimeout => s.server.writeTimeoutSecs
  | idleTimeout => s.server.idleTimeoutSecs
  | shutdownTimeout => s.server.shutdownTimeoutSecs
  | maxBodyBytes => s.server.maxBodyBytes
  | tlsCert => (s.server.tls.getD ⟨"", ""⟩).cert
  | tlsKey => (s.server.tls.getD ⟨"", ""⟩).key
  | tokenSecret => s.auth.tokenSecret
  | tokenExpiration => s.auth.tokenExpirationMinutes
  | issuer => s.auth.issuer
  | publicPaths => s.auth.publicPaths
  | baseUrl => s.client.baseUrl
  | clientTimeout => s.client.timeoutSecs
  | maxRetries => s.client.retry.maxRetries
  | baseInterval => s.client.retry.baseIntervalMs
  | maxBackoff => s.client.retry.maxBackoffMs
  | rateLimitEnabled => s.rateLimit.enabled
  | rateLimit => s.rateLimit.limit
  | rateLimitWindow => s.rateLimit.windowSecs
  | loggingEnabled => s.logging.enabled
  | logLevel => s.logging.level
  | logFormat => s.logging.format

/-- The settings with a value in its place. -/
def put (s : Settings) : (setting : Setting) → setting.Value → Settings
  | bindAddr, v => onServer s fun t => { t with bindAddr := v }
  | readTimeout, v => onServer s fun t => { t with readTimeoutSecs := v }
  | writeTimeout, v => onServer s fun t => { t with writeTimeoutSecs := v }
  | idleTimeout, v => onServer s fun t => { t with idleTimeoutSecs := v }
  | shutdownTimeout, v => onServer s fun t => { t with shutdownTimeoutSecs := v }
  | maxBodyBytes, v => onServer s fun t => { t with maxBodyBytes := v }
  | tlsCert, v => onTls s fun t => { t with cert := v }
  | tlsKey, v => onTls s fun t => { t with key := v }
  | tokenSecret, v => onAuth s fun t => { t with tokenSecret := v }
  | tokenExpiration, v => onAuth s fun t => { t with tokenExpirationMinutes := v }
  | issuer, v => onAuth s fun t => { t with issuer := v }
  | publicPaths, v => onAuth s fun t => { t with publicPaths := v }
  | baseUrl, v => onClient s fun t => { t with baseUrl := v }
  | clientTimeout, v => onClient s fun t => { t with timeoutSecs := v }
  | maxRetries, v => onRetry s fun t => { t with maxRetries := v }
  | baseInterval, v => onRetry s fun t => { t with baseIntervalMs := v }
  | maxBackoff, v => onRetry s fun t => { t with maxBackoffMs := v }
  | rateLimitEnabled, v => onRateLimit s fun t => { t with enabled := v }
  | rateLimit, v => onRateLimit s fun t => { t with limit := v }
  | rateLimitWindow, v => onRateLimit s fun t => { t with windowSecs := v }
  | loggingEnabled, v => onLogging s fun t => { t with enabled := v }
  | logLevel, v => onLogging s fun t => { t with level := v }
  | logFormat, v => onLogging s fun t => { t with format := v }

/-- The names of the server's files, which share a section. -/
def isFile : Setting → Bool
  | tlsCert | tlsKey => true
  | _ => false

/-- The settings that hold these values, with a section for the files or without. -/
def ofValues (v : (setting : Setting) → setting.Value) (files : Bool) : Settings where
  server :=
    { bindAddr := v bindAddr
      readTimeoutSecs := v readTimeout
      writeTimeoutSecs := v writeTimeout
      idleTimeoutSecs := v idleTimeout
      shutdownTimeoutSecs := v shutdownTimeout
      maxBodyBytes := v maxBodyBytes
      tls := if files then some ⟨v tlsCert, v tlsKey⟩ else none }
  auth := ⟨v tokenSecret, v tokenExpiration, v issuer, v publicPaths⟩
  client := ⟨v baseUrl, v clientTimeout, ⟨v maxRetries, v baseInterval, v maxBackoff⟩⟩
  rateLimit := ⟨v rateLimitEnabled, v rateLimit, v rateLimitWindow⟩
  logging := ⟨v loggingEnabled, v logLevel, v logFormat⟩

theorem ofValues_held (s : Settings) : ofValues (held s) s.server.tls.isSome = s := by
  obtain ⟨⟨_, _, _, _, _, _, tls⟩, _, _, _, _⟩ := s
  cases tls <;> rfl

/-- Setting a value from a text is reading the text and putting the value in its place. -/
theorem assign_eq (setting : Setting) (text : String) (s : Settings) :
    setting.assign text s = (setting.parse text).map (put s setting) := by
  cases setting <;> rfl

theorem held_put (s : Settings) (setting : Setting) (v : setting.Value) :
    held (put s setting v) setting = v := by
  cases setting <;> rfl

/-- No two names stand for one value. -/
theorem held_put_of_ne (s : Settings) {setting other : Setting} (v : setting.Value)
    (ne : other ≠ setting) : held (put s setting v) other = held s other := by
  cases setting <;> cases other <;> first | rfl | exact absurd rfl ne

/-- Naming a file brings the section of the server's files into being. -/
theorem isSome_tls_put (s : Settings) (setting : Setting) (v : setting.Value) :
    (put s setting v).server.tls.isSome = (s.server.tls.isSome || setting.isFile) := by
  cases setting <;> simp [put, onServer, onTls, onAuth, onClient, onRetry, onRateLimit, onLogging,
    isFile]

/-- Settings are no more than the values that they hold. -/
theorem ext_of_held {s t : Settings} (held : ∀ setting, held s setting = held t setting)
    (files : s.server.tls.isSome = t.server.tls.isSome) : s = t := by
  rw [← ofValues_held s, ← ofValues_held t, funext held, files]

end Setting

end HttpService
