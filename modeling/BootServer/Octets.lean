/-!
Octet strings: what a datagram, a file or a body is made of. Words are written big-endian, most
significant octet first, as every protocol here has them on the wire.
-/
namespace BootServer

abbrev Octets := List UInt8

namespace Octets

/-- The UTF-8 form of a text. -/
def ofText (s : String) : Octets := s.toUTF8.data.toList

def ofWord16 (n : UInt16) : Octets := [(n >>> 8).toUInt8, n.toUInt8]

def ofWord32 (n : UInt32) : Octets :=
  [(n >>> 24).toUInt8, (n >>> 16).toUInt8, (n >>> 8).toUInt8, n.toUInt8]

def word16 (hi lo : UInt8) : UInt16 := hi.toUInt16 <<< 8 ||| lo.toUInt16

def word32 (a b c d : UInt8) : UInt32 :=
  a.toUInt32 <<< 24 ||| b.toUInt32 <<< 16 ||| c.toUInt32 <<< 8 ||| d.toUInt32

def zeros (n : Nat) : Octets := List.replicate n 0

/-- The octets before the first NUL. -/
def untilNul (bs : Octets) : Octets := bs.takeWhile (· != 0)

/-- Cut or fill with zeros to exactly `n` octets. -/
def fit (n : Nat) (bs : Octets) : Octets := bs.take n ++ zeros (n - bs.length)

theorem length_fit (n : Nat) (bs : Octets) : (fit n bs).length = n := by
  simp only [fit, zeros, List.length_append, List.length_take, List.length_replicate]
  omega

/-- Pieces of `size` octets in order, the last one possibly shorter; nothing for no octets. -/
def pieces (size : Nat) (bs : Octets) : List Octets :=
  if _h : bs = [] ∨ size = 0 then []
  else bs.take size :: pieces size (bs.drop size)
termination_by bs.length
decreasing_by
  have : bs.length ≠ 0 := by simpa using fun h => _h (Or.inl h)
  simp only [List.length_drop]
  omega

end Octets
end BootServer
