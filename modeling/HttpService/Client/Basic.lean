import HttpService.Client.Retry
import HttpService.Net.Url
import HttpService.Text.Quoted

/-!
# Clients

A client calls one service. It is made from a configuration whose base address, user agent and token
have been checked, the address by a reader of addresses that the client goes on to use.
-/

namespace HttpService

structure ClientConfig where
  baseUrl : String
  timeout : Span := .ofSeconds 30
  headers : Headers := []
  bearer : Option String := none
  userAgent : String := "dfs-http-client/0.1.0"
  retry : RetryPolicy := .standard

/-- An argument that another component has refused, for a reason in words of its own. -/
def refusedArgument (message reason : String) : Failure :=
  (Failure.invalidArgument message).withCause (.foreign { text := reason, stable := false })

/-- What is said about a value that no header can have. -/
def unusableValue : String := "failed to parse header value"

/-- The value of an authorization header. -/
def bearerValue (token : String) : Except Failure String :=
  if Headers.legalValue token then .ok ("Bearer " ++ token)
  else .error (refusedArgument "invalid bearer token" unusableValue)

structure Client where
  urls : UrlReader
  config : ClientConfig
  /-- The headers of every request that does not set them itself. -/
  headers : Headers

namespace Client

def new (urls : UrlReader) (c : ClientConfig) : Except Failure Client := do
  match urls.read c.baseUrl with
  | .error reason =>
      .error (refusedArgument ("invalid base URL " ++ Text.quoted c.baseUrl) reason)
  | .ok _ =>
      if !Headers.legalValue c.userAgent then
        .error (refusedArgument "invalid user agent" unusableValue)
      else
        let headers := c.headers.insert "user-agent" c.userAgent
        match c.bearer with
        | none => .ok ⟨urls, c, headers⟩
        | some token => do
            let value ← bearerValue token
            .ok ⟨urls, c, headers.insert "authorization" value⟩

/-- The address of a path: itself if it is absolute, else below the base. -/
def addressOf (c : Client) (path : String) : String :=
  if Text.startsWith path "http://" || Text.startsWith path "https://" then path
  else
    let base := (c.config.baseUrl.toList.reverse.dropWhile (· == '/')).reverse
    String.ofList (base ++ '/' :: path.toList.dropWhile (· == '/'))

def resolve (c : Client) (path : String) : Except Failure Url :=
  let address := c.addressOf path
  match c.urls.read address with
  | .ok url => .ok url
  | .error reason =>
      .error (refusedArgument ("invalid request URL " ++ Text.quoted address) reason)

end Client

end HttpService
