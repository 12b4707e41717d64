import HttpService.Settings.Validation
import HttpService.Text.Blank
import HttpService.Text.Natural
import HttpService.Text.Split
import HttpService.Text.Upper

/-!
# Settings from variables

Variables whose names begin with a prefix and two underscores overlay settings, in the order of
their names. What follows the underscores says which value is set; a variable that names none, or
whose text cannot be read, is a fault.
-/

namespace HttpService

/-- A value that a variable can set. -/
inductive Setting
  | bindAddr
  | readTimeout
  | writeTimeout
  | idleTimeout
  | shutdownTimeout
  | maxBodyBytes
  | tlsCert
  | tlsKey
  | tokenSecret
  | tokenExpiration
  | issuer
  | publicPaths
  | baseUrl
  | clientTimeout
  | maxRetries
  | baseInterval
  | maxBackoff
  | rateLimitEnabled
  | rateLimit
  | rateLimitWindow
  | loggingEnabled
  | logLevel
  | logFormat
  deriving DecidableEq, Repr

namespace Setting

def all : List Setting :=
  [bindAddr, readTimeout, writeTimeout, idleTimeout, shutdownTimeout, maxBodyBytes, tlsCert, tlsKey,
   tokenSecret, tokenExpiration, issuer, publicPaths, baseUrl, clientTimeout, maxRetries,
   baseInterval, maxBackoff, rateLimitEnabled, rateLimit, rateLimitWindow, loggingEnabled, logLevel,
   logFormat]

/-- The sections and the name of a value, as variables write them. -/
def path : Setting → String
  | bindAddr => "SERVER__BIND_ADDR"
  | readTimeout => "SERVER__READ_TIMEOUT_SECS"
  | writeTimeout => "SERVER__WRITE_TIMEOUT_SECS"
  | idleTimeout => "SERVER__IDLE_TIMEOUT_SECS"
  | shutdownTimeout => "SERVER__SHUTDOWN_TIMEOUT_SECS"
  | maxBodyBytes => "SERVER__MAX_BODY_BYTES"
  | tlsCert => "SERVER__TLS__CERT"
  | tlsKey => "SERVER__TLS__KEY"
  | tokenSecret => "AUTH__TOKEN_SECRET"
  | tokenExpiration => "AUTH__TOKEN_EXPIRATION_MINUTES"
  | issuer => "AUTH__ISSUER"
  | publicPaths => "AUTH__PUBLIC_PATHS"
  | baseUrl => "CLIENT__BASE_URL"
  | clientTimeout => "CLIENT__TIMEOUT_SECS"
  | maxRetries => "CLIENT__RETRY__MAX_RETRIES"
  | baseInterval => "CLIENT__RETRY__BASE_INTERVAL_MS"
  | maxBackoff => "CLIENT__RETRY__MAX_BACKOFF_MS"
  | rateLimitEnabled => "RATE_LIMIT__ENABLED"
  | rateLimit => "RATE_LIMIT__LIMIT"
  | rateLimitWindow => "RATE_LIMIT__WINDOW_SECS"
  | loggingEnabled => "LOGGING__ENABLED"
  | logLevel => "LOGGING__LEVEL"
  | logFormat => "LOGGING__FORMAT"

def ofPath? (path : String) : Option Setting :=
  all.find? fun s => s.path == path

/-- A number up to a bound, blanks around it left out. -/
def number (bound : Nat) (value : String) : Except String Nat :=
  match Text.natural? (Text.trimChars value.toList) with
  | some n => if n ≤ bound then .ok n else .error "expected a non-negative integer"
  | none => .error "expected a non-negative integer"

/-- A truth value by one of its names, in letters of either case. -/
def truth (value : String) : Except String Bool :=
  -- No letter outside ASCII has one of theirs as its small letter.
  let word := String.ofList (value.toList.map Char.toLower)
  if ["true", "1", "yes", "on"].contains word then .ok true
  else if ["false", "0", "no", "off"].contains word then .ok false
  else .error "expected boolean"

def format (value : String) : Except String LogFormat :=
  match LogFormat.parse? value with
  | some f => .ok f
  | none => .error "expected 'json' or 'pretty'"

/-- A text that clears what it sets if it is empty. -/
def optional (value : String) : Option String :=
  if value.isEmpty then none else some value

/-- The parts between commas without the blanks around them, empty parts left out. -/
def paths (value : String) : List String :=
  ((Text.split ',' value).map Text.trim).filter fun p => !p.isEmpty

def onServer (s : Settings) (f : ServerSettings → ServerSettings) : Settings :=
  { s with server := f s.server }

def onAuth (s : Settings) (f : AuthSettings → AuthSettings) : Settings :=
  { s with auth := f s.auth }

def onClient (s : Settings) (f : ClientSettings → ClientSettings) : Settings :=
  { s with client := f s.client }

def onRetry (s : Settings) (f : RetrySettings → RetrySettings) : Settings :=
  onClient s fun c => { c with retry := f c.retry }

def onRateLimit (s : Settings) (f : RateLimitSettings → RateLimitSettings) : Settings :=
  { s with rateLimit := f s.rateLimit }

def onLogging (s : Settings) (f : LoggingSettings → LoggingSettings) : Settings :=
  { s with logging := f s.logging }

/-- The files of the server; naming one brings the section into being. -/
def onTls (s : Settings) (f : TlsSettings → TlsSettings) : Settings :=
  onServer s fun server => { server with tls := some (f (server.tls.getD ⟨"", ""⟩)) }

/-- Sets a value from a variable's text. -/
def assign (setting : Setting) (value : String) (s : Settings) : Except String Settings :=
  let word := number wordBound value
  match setting with
  | bindAddr => .ok (onServer s fun t => { t with bindAddr := value })
  | readTimeout => do let n ← word; .ok (onServer s fun t => { t with readTimeoutSecs := n })
  | writeTimeout => do let n ← word; .ok (onServer s fun t => { t with writeTimeoutSecs := n })
  | idleTimeout => do let n ← word; .ok (onServer s fun t => { t with idleTimeoutSecs := n })
  | shutdownTimeout => do
      let n ← word
      .ok (onServer s fun t => { t with shutdownTimeoutSecs := n })
  | maxBodyBytes => do let n ← word; .ok (onServer s fun t => { t with maxBodyBytes := n })
  | tlsCert => .ok (onTls s fun t => { t with cert := value })
  | tlsKey => .ok (onTls s fun t => { t with key := value })
  | tokenSecret => .ok (onAuth s fun t => { t with tokenSecret := optional value })
  | tokenExpiration => do
      let n ← word
      .ok (onAuth s fun t => { t with tokenExpirationMinutes := n })
  | issuer => .ok (onAuth s fun t => { t with issuer := optional value })
  | publicPaths => .ok (onAuth s fun t => { t with publicPaths := paths value })
  | baseUrl => .ok (onClient s fun t => { t with baseUrl := value })
  | clientTimeout => do let n ← word; .ok (onClient s fun t => { t with timeoutSecs := n })
  | maxRetries => do
      let n ← number halfWordBound value
      .ok (onRetry s fun t => { t with maxRetries := n })
  | baseInterval => do let n ← word; .ok (onRetry s fun t => { t with baseIntervalMs := n })
  | maxBackoff => do let n ← word; .ok (onRetry s fun t => { t with maxBackoffMs := n })
  | rateLimitEnabled => do
      let b ← truth value
      .ok (onRateLimit s fun t => { t with enabled := b })
  | rateLimit => do let n ← word; .ok (onRateLimit s fun t => { t with limit := n })
  | rateLimitWindow => do let n ← word; .ok (onRateLimit s fun t => { t with windowSecs := n })
  | loggingEnabled => do
      let b ← truth value
      .ok (onLogging s fun t => { t with enabled := b })
  | logLevel => .ok (onLogging s fun t => { t with level := value })
  | logFormat => do
      let f ← format value
      .ok (onLogging s fun t => { t with format := f })

end Setting

/-- Settings on top of which variables may be laid. -/
structure Overlay where
  base : Settings := {}
  /-- In capitals; without one no variable counts. -/
  start : Option String := none
  given : List (String × String) := []

namespace Overlay

/-- Looks for variables with a prefix, whose letters count as capitals. -/
def withStart (o : Overlay) (start : String) : Overlay :=
  { o with start := some (Text.upper start) }

/-- Sets what one variable says. -/
def apply (marker : String) (s : Settings) (entry : String × String) :
    Except SettingsFault Settings :=
  let (name, value) := entry
  match (Text.stripStart? marker name).bind Setting.ofPath? with
  | none => .error (.unreadableVariable name "unknown configuration key")
  | some setting => (setting.assign value s).mapError (.unreadableVariable name)

/-- The variables under a marker, in ascending order. -/
def matching (marker : String) (given : List (String × String)) : List (String × String) :=
  (given.filter fun v => Text.startsWith v.1 marker).mergeSort fun a b =>
    a.1 < b.1 || (a.1 == b.1 && !(b.2 < a.2))

/-- The settings with the variables on top. -/
def merged (o : Overlay) : Except SettingsFault Settings :=
  match o.start with
  | none => .ok o.base
  | some start =>
      let marker := start ++ "__"
      (matching marker o.given).foldlM (apply marker) o.base

def load (o : Overlay) (filters : FilterReader) : Except SettingsFault Settings := do
  let s ← o.merged
  s.validate filters
  .ok s

end Overlay

end HttpService
