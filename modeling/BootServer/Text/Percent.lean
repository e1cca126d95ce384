import BootServer.Octets
import BootServer.Text.Hex

/-!
Percent encoding. A character outside ASCII, a control character or a member of the set in force is
written as its UTF-8 octets, each as a percent sign and two digits; every other character, the
percent sign itself included, stands as it is.
-/
namespace BootServer.Text.Percent

def isAsciiText (c : Char) : Bool := 0x20 ≤ c.toNat && c.toNat < 0x7F

def encodeChar (reserved : Char → Bool) (c : Char) : List Char :=
  if isAsciiText c && !reserved c then [c]
  else (String.utf8EncodeChar c).flatMap fun o => '%' :: Hex.octetUpper o

def encode (reserved : Char → Bool) (l : List Char) : List Char := l.flatMap (encodeChar reserved)

def isPercent (o : UInt8) : Bool := o = 0x25

/-- Replace each percent sign that two digits follow by the octet they name. -/
def decode : Octets → Octets
  | o :: x :: y :: rest =>
    match if isPercent o then Hex.octet? (Char.ofNat x.toNat) (Char.ofNat y.toNat) else none with
    | some v => v :: decode rest
    | none => o :: decode (x :: y :: rest)
  | os => os

end BootServer.Text.Percent
