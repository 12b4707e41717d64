import HttpService.Client.Basic
import HttpService.Limit.Limiter
import HttpService.Server.Config
import HttpService.Settings.Validation
import HttpService.Stage.Authentication

/-!
# Settings at work

The configurations and components that settings ask for.
-/

namespace HttpService

namespace ServerSettings

def toConfig (s : ServerSettings) : ServerConfig where
  bindAddr := s.bindAddr
  readTimeout := .ofSeconds s.readTimeoutSecs
  writeTimeout := .ofSeconds s.writeTimeoutSecs
  idleTimeout := .ofSeconds s.idleTimeoutSecs
  shutdownTimeout := .ofSeconds s.shutdownTimeoutSecs
  maxBodyBytes := s.maxBodyBytes
  tls := s.tls.map fun files => ⟨files.cert, files.key⟩

end ServerSettings

namespace ClientSettings

def toConfig (s : ClientSettings) : Except SettingsFault ClientConfig := do
  let policy := RetryPolicy.new s.retry.maxRetries (.ofMillis s.retry.baseIntervalMs)
    (.ofMillis s.retry.maxBackoffMs)
  let retry ← policy.mapError (.refused "retry policy")
  .ok { baseUrl := s.baseUrl, timeout := .ofSeconds s.timeoutSecs, retry := retry }

end ClientSettings

namespace RateLimitSettings

/-- The limit, if it is enabled. -/
def toRate? (s : RateLimitSettings) : Option RateLimit :=
  if s.enabled then some { limit := s.limit, window := .ofSeconds s.windowSecs } else none

end RateLimitSettings

namespace AuthSettings

def toMaker (s : AuthSettings) : Except SettingsFault TokenMaker :=
  match s.tokenSecret with
  | none => .error (.missingField "auth.token_secret")
  | some secret => do
      let maker ← (TokenMaker.new (Text.utf8 secret)).mapError (.refused "token maker")
      .ok (match s.issuer with
        | some issuer => maker.withIssuer issuer
        | none => maker)

def toGatekeeper (s : AuthSettings) : Except SettingsFault Gatekeeper := do
  let maker ← s.toMaker
  .ok { maker := maker, publicPaths := s.publicPaths }

/-- The most minutes that are counted when a number does not fit. -/
def minutesBound : Nat := (Nat.pow 2 63 - 1) / 60000

def countedMinutes (s : AuthSettings) : Nat :=
  if s.tokenExpirationMinutes < Nat.pow 2 63 then s.tokenExpirationMinutes else minutesBound

/-- The minutes that a token is good for; nothing if their milliseconds do not fit. -/
def lifetimeMinutes? (s : AuthSettings) : Option Nat :=
  if s.countedMinutes ≤ minutesBound then some s.countedMinutes else none

/-- The nanoseconds that a token is good for. -/
def lifetime? (s : AuthSettings) : Option Int :=
  s.lifetimeMinutes?.map fun minutes : Nat => minutes * 60 * Instant.nanosPerSecond

/-- What diagnostics show; the secret is kept back. -/
def describe (s : AuthSettings) : String :=
  "AuthSection \x7b token_secret: " ++
    Text.quotedOption (s.tokenSecret.map fun _ => "<redacted>") ++
    ", token_expiration_minutes: " ++ toString s.tokenExpirationMinutes ++ ", issuer: " ++
    Text.quotedOption s.issuer ++ ", public_paths: " ++
    Text.listed (s.publicPaths.map Text.quoted) ++ " \x7d"

end AuthSettings

namespace LoggingSettings

def toConfig (s : LoggingSettings) : LogConfig :=
  let base := match s.format with
    | .json => LogConfig.production
    | .pretty => LogConfig.development
  { base with enabled := s.enabled, level := s.level }

end LoggingSettings

end HttpService
