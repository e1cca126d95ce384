import BootServer.Net.Address
import BootServer.Text.Blank

/-!
Networks in CIDR notation. A network is an address with a number of leading bits; it contains the
addresses of the same family that agree with it on those bits. The other bits of its own address
are kept as they were written and never matter.
-/
namespace BootServer

inductive Network where
  | v4 (ip : Ipv4) (bits : Nat)
  | v6 (ip : Ipv6) (bits : Nat)
  deriving DecidableEq

namespace Network

def ofAddress : IpAddress → Network
  | .v4 ip => .v4 ip 32
  | .v6 ip => .v6 ip 128

def text : Network → String
  | .v4 ip bits => ip.text ++ "/" ++ Text.Decimal.text bits
  | .v6 ip bits => ip.text ++ "/" ++ Text.Decimal.text bits

def contains : Network → IpAddress → Bool
  | .v4 net bits, .v4 ip => net.toNat >>> (32 - bits) = ip.toNat >>> (32 - bits)
  | .v6 net bits, .v6 ip => net.toNat >>> (128 - bits) = ip.toNat >>> (128 - bits)
  | _, _ => false

/-- The number of leading one bits of a mask that has no one bit after them. -/
def maskBits? (mask : Ipv4) : Option Nat :=
  (List.range 33).find? fun bits => mask.toNat = 1 <<< 32 - 1 <<< (32 - bits)

def bits? (limit : Nat) (l : List Char) : Option Nat :=
  (Text.Decimal.readChars? Text.Decimal.max8 l).filter (· ≤ limit)

def ipv4Bits? (l : List Char) : Option Nat :=
  match Ipv4.parseChars? l with
  | some mask => maskBits? mask
  | none => bits? 32 l

/-- Read an address, a slash, and either a number of bits or, for IPv4, a mask. -/
def parse? (s : String) : Option Network :=
  match Text.fields '/' s.toList with
  | [address, size] =>
    match Ipv4.parseChars? address with
    | some ip => (ipv4Bits? size).map (.v4 ip)
    | none => do return .v6 (← Ipv6.parseChars? address) (← bits? 128 size)
  | _ => none

/-- One entry of a list of networks: a network, or an address standing for itself alone. -/
def entry? (s : String) : Option Network :=
  if s.toList.contains '/' then parse? s else (IpAddress.parse? s).map ofAddress

/-- Read a comma separated list, skipping blank entries. Fails with the first entry that is
neither an address nor a network. -/
def parseList (raw : String) : Except String (List Network) :=
  ((Text.split ',' raw).map Text.trim).filter (· ≠ "") |>.mapM fun entry =>
    match entry? entry with
    | some network => .ok network
    | none => .error entry

end Network
end BootServer
