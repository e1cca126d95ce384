import BootServer.Octets
import BootServer.Text.Fields

/-!
Lists of domain names as option 119 holds them: each name as its labels, a label as a length and up
to 63 octets, and a zero after the last one. Names are not compressed.
-/
namespace BootServer.Dhcp.DomainSearch

def maxLabel : Nat := 63

/-- The parts of a name between its dots, less the empty ones, each cut to the length of a label. -/
def labels (name : String) : List Octets :=
  ((Text.split '.' (Text.trimEndWhile (· = '.') name)).filter (· ≠ "")).map fun label =>
    (Octets.ofText label).take maxLabel

def encodeLabel (label : Octets) : Octets := UInt8.ofNat label.length :: label

def encodeName (name : String) : Octets := (labels name).flatMap encodeLabel ++ [0]

def encode (names : List String) : Octets := names.flatMap encodeName

end BootServer.Dhcp.DomainSearch
