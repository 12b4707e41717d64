/-!
# Web addresses

Which texts are addresses, and which parts they have, is for a reader of addresses to say. A client
asks it about the text of an address and keeps what it is told.
-/

namespace HttpService

/-- What a reader tells about an address. -/
structure Url where
  /-- The address as the reader writes it. -/
  text : String
  /-- The same without the name and the password that it may carry, as requests have it. -/
  bare : String
  /-- The value of an authorization header that the name and the password stand for. -/
  login : Option String := none
  /-- Whether there is a host that requests can be sent to. -/
  hosted : Bool := true
  deriving DecidableEq, Repr

/-- A reader of addresses: what it tells about a text, or why the text is no address. -/
structure UrlReader where
  read : String → Except String Url

namespace UrlReader

/-- The reader that knows one address, which carries no name and no password. -/
def only (address : String) : UrlReader where
  read text :=
    if text = address then .ok { text := address, bare := address } else .error "unknown address"

theorem read_only {address text : String} (same : text = address) :
    (only address).read text = .ok { text := address, bare := address } :=
  if_pos same

end UrlReader

end HttpService
