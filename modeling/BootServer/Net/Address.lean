import BootServer.Net.Ipv6

/-!
Addresses of either family, and addresses with a port.
-/
namespace BootServer

inductive IpAddress where
  | v4 (ip : Ipv4)
  | v6 (ip : Ipv6)
  deriving DecidableEq

namespace IpAddress

def parse? (s : String) : Option IpAddress :=
  match Ipv4.parse? s with
  | some ip => some (.v4 ip)
  | none => (Ipv6.parse? s).map .v6

def text : IpAddress → String
  | .v4 ip => ip.text
  | .v6 ip => ip.text

end IpAddress

structure Endpoint where
  ip : IpAddress
  port : UInt16
  deriving DecidableEq

namespace Endpoint

def text (e : Endpoint) : String :=
  match e.ip with
  | .v4 ip => ip.text ++ ":" ++ Text.Decimal.text e.port.toNat
  | .v6 ip => "[" ++ ip.text ++ "]:" ++ Text.Decimal.text e.port.toNat

end Endpoint

structure Ipv4Endpoint where
  ip : Ipv4
  port : UInt16
  deriving DecidableEq

namespace Ipv4Endpoint

def toEndpoint (e : Ipv4Endpoint) : Endpoint := ⟨.v4 e.ip, e.port⟩

def text (e : Ipv4Endpoint) : String := e.toEndpoint.text

/-- A port number is digits alone: no sign, but any number of leading zeros. -/
def port? (l : List Char) : Option UInt16 :=
  ((Text.Decimal.value? l).filter (· ≤ Text.Decimal.max16)).map UInt16.ofNat

def parse? (s : String) : Option Ipv4Endpoint :=
  match Text.fields ':' s.toList with
  | [host, port] => do return ⟨← Ipv4.parseChars? host, ← port? port⟩
  | _ => none

end Ipv4Endpoint
end BootServer
