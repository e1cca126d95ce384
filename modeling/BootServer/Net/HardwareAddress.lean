import BootServer.Octets
import BootServer.Text.Hex

/-!
Ethernet hardware addresses. There are many spellings and one canonical form, six pairs of
lower-case digits joined by colons, in which clients and record stores name a machine.
-/
namespace BootServer

structure HardwareAddress where
  a : UInt8
  b : UInt8
  c : UInt8
  d : UInt8
  e : UInt8
  f : UInt8
  deriving DecidableEq, Repr

namespace HardwareAddress

def octets (m : HardwareAddress) : Octets := [m.a, m.b, m.c, m.d, m.e, m.f]

def ofOctets? : Octets → Option HardwareAddress
  | [a, b, c, d, e, f] => some ⟨a, b, c, d, e, f⟩
  | _ => none

@[simp] theorem ofOctets?_octets (m : HardwareAddress) : ofOctets? m.octets = some m := rfl

private def joined (separator : String) (digits : UInt8 → List Char) (m : HardwareAddress) :
    String :=
  separator.intercalate (m.octets.map fun o => String.ofList (digits o))

def text (m : HardwareAddress) : String := joined ":" Text.Hex.octetLower m

def dashed (m : HardwareAddress) : String := joined "-" Text.Hex.octetLower m

def upperText (m : HardwareAddress) : String := joined ":" Text.Hex.octetUpper m

def isDelimiter (c : Char) : Bool := c = '-' || c = ':' || c = '.'

/-- Read octets, each of exactly two digits. One delimiter may stand before each octet, and the
first delimiter seen is the only one allowed from there on. -/
def octetsOf? (delimiter : Option Char) : List Char → Option Octets
  | [] => some []
  | [_] => none
  | x :: y :: rest =>
    if isDelimiter x then
      if delimiter.getD x = x then
        match rest with
        | z :: rest => do
          let o ← Text.Hex.octet? y z
          (o :: ·) <$> octetsOf? (some x) rest
        | [] => none
      else none
    else do
      let o ← Text.Hex.octet? x y
      (o :: ·) <$> octetsOf? delimiter rest

def parse? (s : String) : Option HardwareAddress := (octetsOf? none s.toList).bind ofOctets?

end HardwareAddress
end BootServer
