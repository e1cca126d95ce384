import BootServer.Http.Header
import BootServer.Net.Network

/-!
Whose request it is. A proxy appends the address it got a request from to the forwarding header; the
header is believed as far as trusted proxies wrote it, that is from its end up to the first address
that is not one of theirs.
-/
namespace BootServer.Http

def forwardedHeader : String := "x-forwarded-for"

def isTrusted (trusted : List Network) (ip : IpAddress) : Bool := trusted.any (·.contains ip)

/-- The addresses in the forwarding headers, in order. Whatever is not an address is passed over,
and so is a header that is not text. -/
def hops (headers : Headers) : List IpAddress :=
  ((Headers.all headers forwardedHeader).filterMap Header.text?).flatMap fun line =>
    (Text.split ',' line).filterMap fun hop => IpAddress.parse? (Text.trim hop)

/-- The last hop that is not trusted, or else the first one. -/
def origin? (trusted : List Network) (hops : List IpAddress) : Option IpAddress :=
  (hops.reverse.find? (!isTrusted trusted ·)).or hops.head?

def clientAddress (trusted : List Network) (peer : IpAddress) (headers : Headers) : IpAddress :=
  if isTrusted trusted peer then (origin? trusted (hops headers)).getD peer else peer

end BootServer.Http
