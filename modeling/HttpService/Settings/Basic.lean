import HttpService.Json.Reader

/-!
# Settings

What a deployment can set, in five sections. In a document every section, and every value with a
default, may be left out; a name that is not known is refused. A record and its reader share the
defaults that have a name of their own; the others stand in both.
-/

namespace HttpService

structure TlsSettings where
  cert : String
  key : String
  deriving DecidableEq, Repr

namespace ServerSettings

def defaultBindAddr : String := "0.0.0.0:8080"
def defaultReadTimeout : Nat := 15
def defaultWriteTimeout : Nat := 30
def defaultIdleTimeout : Nat := 60
def defaultShutdownTimeout : Nat := 30
def defaultMaxBodyBytes : Nat := 10485760

end ServerSettings

structure ServerSettings where
  bindAddr : String := ServerSettings.defaultBindAddr
  readTimeoutSecs : Nat := ServerSettings.defaultReadTimeout
  writeTimeoutSecs : Nat := ServerSettings.defaultWriteTimeout
  idleTimeoutSecs : Nat := ServerSettings.defaultIdleTimeout
  shutdownTimeoutSecs : Nat := ServerSettings.defaultShutdownTimeout
  maxBodyBytes : Nat := ServerSettings.defaultMaxBodyBytes
  tls : Option TlsSettings := none
  deriving DecidableEq, Repr

namespace AuthSettings

def defaultTokenExpiration : Nat := 60
def defaultPublicPaths : List String :=
  ["/health", "/metrics", "/api/v1/auth/login", "/api/v1/auth/register", "/status"]

end AuthSettings

structure AuthSettings where
  tokenSecret : Option String := none
  tokenExpirationMinutes : Nat := AuthSettings.defaultTokenExpiration
  issuer : Option String := none
  publicPaths : List String := AuthSettings.defaultPublicPaths
  deriving DecidableEq, Repr

namespace RetrySettings

def defaultMaxRetries : Nat := 3
def defaultBaseInterval : Nat := 500
def defaultMaxBackoff : Nat := 5000

end RetrySettings

structure RetrySettings where
  maxRetries : Nat := RetrySettings.defaultMaxRetries
  baseIntervalMs : Nat := RetrySettings.defaultBaseInterval
  maxBackoffMs : Nat := RetrySettings.defaultMaxBackoff
  deriving DecidableEq, Repr

namespace ClientSettings

def defaultBaseUrl : String := "http://127.0.0.1:8080"
def defaultTimeout : Nat := 30

end ClientSettings

structure ClientSettings where
  baseUrl : String := ClientSettings.defaultBaseUrl
  timeoutSecs : Nat := ClientSettings.defaultTimeout
  retry : RetrySettings := {}
  deriving DecidableEq, Repr

namespace RateLimitSettings

def defaultLimit : Nat := 100
def defaultWindow : Nat := 60

end RateLimitSettings

structure RateLimitSettings where
  enabled : Bool := true
  limit : Nat := RateLimitSettings.defaultLimit
  windowSecs : Nat := RateLimitSettings.defaultWindow
  deriving DecidableEq, Repr

inductive LogFormat
  | json
  | pretty
  deriving DecidableEq, Repr

def LoggingSettings.defaultLevel : String := "info"

structure LoggingSettings where
  enabled : Bool := true
  level : String := LoggingSettings.defaultLevel
  format : LogFormat := .json
  deriving DecidableEq, Repr

structure Settings where
  server : ServerSettings := {}
  auth : AuthSettings := {}
  client : ClientSettings := {}
  rateLimit : RateLimitSettings := {}
  logging : LoggingSettings := {}
  deriving DecidableEq, Repr

namespace LogFormat

def name : LogFormat → String
  | json => "json"
  | pretty => "pretty"

def all : List LogFormat := [json, pretty]

def ofName? (s : String) : Option LogFormat :=
  all.find? fun f => f.name == s

/-- Reads a name in letters of either case. -/
def parse? (s : String) : Option LogFormat :=
  ofName? (String.ofList (s.toList.map Char.toLower))

def reader : Json.Reader LogFormat :=
  Json.Reader.choice "log format" ofName?

end LogFormat

/-- The numbers of one word. -/
def wordBound : Nat := Nat.pow 2 64 - 1

/-- The numbers of half a word. -/
def halfWordBound : Nat := Nat.pow 2 32 - 1

namespace TlsSettings

def toJson (s : TlsSettings) : Json :=
  .object [("cert", .text s.cert), ("key", .text s.key)]

def names : List String := ["cert", "key"]

def reader : Json.Reader TlsSettings :=
  Json.Reader.record names true fun f => do
    let cert ← f.required "cert" Json.Reader.string
    let key ← f.required "key" Json.Reader.string
    .ok ⟨cert, key⟩

end TlsSettings

namespace ServerSettings

def toJson (s : ServerSettings) : Json :=
  .object
    [("bind_addr", .text s.bindAddr), ("read_timeout_secs", Json.ofNat s.readTimeoutSecs),
     ("write_timeout_secs", Json.ofNat s.writeTimeoutSecs),
     ("idle_timeout_secs", Json.ofNat s.idleTimeoutSecs),
     ("shutdown_timeout_secs", Json.ofNat s.shutdownTimeoutSecs),
     ("max_body_bytes", Json.ofNat s.maxBodyBytes), ("tls", Json.ofOption TlsSettings.toJson s.tls)]

def names : List String :=
  ["bind_addr", "read_timeout_secs", "write_timeout_secs", "idle_timeout_secs",
    "shutdown_timeout_secs", "max_body_bytes", "tls"]

def reader : Json.Reader ServerSettings :=
  Json.Reader.record names true fun f => do
    let word := Json.Reader.natUpTo wordBound
    let bindAddr ← f.defaulted "bind_addr" defaultBindAddr Json.Reader.string
    let read ← f.defaulted "read_timeout_secs" defaultReadTimeout word
    let write ← f.defaulted "write_timeout_secs" defaultWriteTimeout word
    let idle ← f.defaulted "idle_timeout_secs" defaultIdleTimeout word
    let shutdown ← f.defaulted "shutdown_timeout_secs" defaultShutdownTimeout word
    let maxBodyBytes ← f.defaulted "max_body_bytes" defaultMaxBodyBytes word
    let tls ← f.defaulted "tls" none TlsSettings.reader.option
    .ok ⟨bindAddr, read, write, idle, shutdown, maxBodyBytes, tls⟩

end ServerSettings

namespace AuthSettings

def toJson (s : AuthSettings) : Json :=
  .object
    [("token_secret", Json.ofText? s.tokenSecret),
     ("token_expiration_minutes", Json.ofNat s.tokenExpirationMinutes),
     ("issuer", Json.ofText? s.issuer), ("public_paths", .array (s.publicPaths.map .text))]

def names : List String := ["token_secret", "token_expiration_minutes", "issuer", "public_paths"]

def reader : Json.Reader AuthSettings :=
  Json.Reader.record names true fun f => do
    let secret ← f.defaulted "token_secret" none Json.Reader.string.option
    let minutes ← f.defaulted "token_expiration_minutes" defaultTokenExpiration
      (Json.Reader.natUpTo wordBound)
    let issuer ← f.defaulted "issuer" none Json.Reader.string.option
    let paths ← f.defaulted "public_paths" defaultPublicPaths Json.Reader.string.list
    .ok ⟨secret, minutes, issuer, paths⟩

end AuthSettings

namespace RetrySettings

def toJson (s : RetrySettings) : Json :=
  .object
    [("max_retries", Json.ofNat s.maxRetries), ("base_interval_ms", Json.ofNat s.baseIntervalMs),
     ("max_backoff_ms", Json.ofNat s.maxBackoffMs)]

def names : List String := ["max_retries", "base_interval_ms", "max_backoff_ms"]

def reader : Json.Reader RetrySettings :=
  Json.Reader.record names true fun f => do
    let word := Json.Reader.natUpTo wordBound
    let retries ← f.defaulted "max_retries" defaultMaxRetries (Json.Reader.natUpTo halfWordBound)
    let base ← f.defaulted "base_interval_ms" defaultBaseInterval word
    let cap ← f.defaulted "max_backoff_ms" defaultMaxBackoff word
    .ok ⟨retries, base, cap⟩

end RetrySettings

namespace ClientSettings

def toJson (s : ClientSettings) : Json :=
  .object
    [("base_url", .text s.baseUrl), ("timeout_secs", Json.ofNat s.timeoutSecs),
     ("retry", s.retry.toJson)]

def names : List String := ["base_url", "timeout_secs", "retry"]

def reader : Json.Reader ClientSettings :=
  Json.Reader.record names true fun f => do
    let baseUrl ← f.defaulted "base_url" defaultBaseUrl Json.Reader.string
    let timeout ← f.defaulted "timeout_secs" defaultTimeout (Json.Reader.natUpTo wordBound)
    let retry ← f.defaulted "retry" {} RetrySettings.reader
    .ok ⟨baseUrl, timeout, retry⟩

end ClientSettings

namespace RateLimitSettings

def toJson (s : RateLimitSettings) : Json :=
  .object
    [("enabled", .bool s.enabled), ("limit", Json.ofNat s.limit),
     ("window_secs", Json.ofNat s.windowSecs)]

def names : List String := ["enabled", "limit", "window_secs"]

def reader : Json.Reader RateLimitSettings :=
  Json.Reader.record names true fun f => do
    let enabled ← f.defaulted "enabled" true Json.Reader.bool
    let limit ← f.defaulted "limit" defaultLimit (Json.Reader.natUpTo wordBound)
    let window ← f.defaulted "window_secs" defaultWindow (Json.Reader.natUpTo wordBound)
    .ok ⟨enabled, limit, window⟩

end RateLimitSettings

namespace LoggingSettings

def toJson (s : LoggingSettings) : Json :=
  .object
    [("enabled", .bool s.enabled), ("level", .text s.level), ("format", .text s.format.name)]

def names : List String := ["enabled", "level", "format"]

def reader : Json.Reader LoggingSettings :=
  Json.Reader.record names true fun f => do
    let enabled ← f.defaulted "enabled" true Json.Reader.bool
    let level ← f.defaulted "level" defaultLevel Json.Reader.string
    let format ← f.defaulted "format" .json LogFormat.reader
    .ok ⟨enabled, level, format⟩

end LoggingSettings

namespace Settings

def toJson (s : Settings) : Json :=
  .object
    [("server", s.server.toJson), ("auth", s.auth.toJson), ("client", s.client.toJson),
     ("rate_limit", s.rateLimit.toJson), ("logging", s.logging.toJson)]

def names : List String := ["server", "auth", "client", "rate_limit", "logging"]

def reader : Json.Reader Settings :=
  Json.Reader.record names true fun f => do
    let server ← f.defaulted "server" {} ServerSettings.reader
    let auth ← f.defaulted "auth" {} AuthSettings.reader
    let client ← f.defaulted "client" {} ClientSettings.reader
    let rateLimit ← f.defaulted "rate_limit" {} RateLimitSettings.reader
    let logging ← f.defaulted "logging" {} LoggingSettings.reader
    .ok ⟨server, auth, client, rateLimit, logging⟩

/-- For work on one machine: only local clients, and logs to be read by people. -/
def development : Settings where
  server := { bindAddr := "127.0.0.1:8080" }
  logging := { level := "debug", format := .pretty }

def production : Settings where
  logging := { level := "info", format := .json }

end Settings

end HttpService
