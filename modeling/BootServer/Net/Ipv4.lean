import BootServer.Octets
import BootServer.Text.Decimal

/-!
IPv4 addresses. The text form is four decimal octets without leading zeros, read and written alike.
-/
namespace BootServer

structure Ipv4 where
  a : UInt8
  b : UInt8
  c : UInt8
  d : UInt8
  deriving DecidableEq, Repr

namespace Ipv4

def unspecified : Ipv4 := ⟨0, 0, 0, 0⟩

def broadcast : Ipv4 := ⟨255, 255, 255, 255⟩

def isUnspecified (ip : Ipv4) : Bool := ip = unspecified

def octets (ip : Ipv4) : Octets := [ip.a, ip.b, ip.c, ip.d]

def ofOctets? : Octets → Option Ipv4
  | [a, b, c, d] => some ⟨a, b, c, d⟩
  | _ => none

@[simp] theorem ofOctets?_octets (ip : Ipv4) : ofOctets? ip.octets = some ip := rfl

def toNat (ip : Ipv4) : Nat :=
  ((ip.a.toNat * 256 + ip.b.toNat) * 256 + ip.c.toNat) * 256 + ip.d.toNat

def ofNat (n : Nat) : Ipv4 :=
  ⟨.ofNat (n / 16777216), .ofNat (n / 65536), .ofNat (n / 256), .ofNat n⟩

def text (ip : Ipv4) : String :=
  ".".intercalate (ip.octets.map fun o => Text.Decimal.text o.toNat)

/-- One octet: no more than three digits, and no leading zero but in `0` itself. -/
def octet? (l : List Char) : Option UInt8 :=
  if l.length > 3 || (l.head? == some '0' && l.length > 1) then none
  else ((Text.Decimal.value? l).filter (· ≤ 255)).map UInt8.ofNat

def parseChars? (l : List Char) : Option Ipv4 :=
  ((Text.fields '.' l).mapM octet?).bind ofOctets?

def parse? (s : String) : Option Ipv4 := parseChars? s.toList

end Ipv4
end BootServer
