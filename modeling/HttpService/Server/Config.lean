import HttpService.Net.Address
import HttpService.Time.Span

/-!
# Server configuration

Where a server listens and what it allows its clients.
-/

namespace HttpService

/-- Where a certificate and its key are kept. -/
structure TlsFiles where
  cert : String
  key : String
  deriving DecidableEq, Repr

structure ServerConfig where
  bindAddr : String := "0.0.0.0:8080"
  readTimeout : Span := .ofSeconds 15
  writeTimeout : Span := .ofSeconds 30
  idleTimeout : Span := .ofSeconds 60
  shutdownTimeout : Span := .ofSeconds 30
  maxBodyBytes : Nat := 10485760
  tls : Option TlsFiles := none
  deriving DecidableEq, Repr

/-- The address to listen at, if the text is one. -/
def ServerConfig.socketAddr? (c : ServerConfig) : Option SocketAddress :=
  SocketAddress.parse? c.bindAddr

end HttpService
