import BootServer.Octets
import BootServer.Text.Utf8

/-!
Headers of requests and responses. Names are in lower case, and several headers may have one name. A
value is octets, and text only if it holds nothing but visible ASCII, spaces and tabs.
-/
namespace BootServer.Http

structure Header where
  name : String
  value : Octets
  deriving DecidableEq

abbrev Headers := List Header

namespace Header

def of (name value : String) : Header :=
  ⟨String.ofList (name.toList.map Char.toLower), Octets.ofText value⟩

def isTextOctet (o : UInt8) : Bool := o = 0x09 || (0x20 ≤ o && o ≤ 0x7E)

/-- The value as text. -/
def text? (h : Header) : Option String :=
  if h.value.all isTextOctet then some (String.ofList (h.value.map fun o => Char.ofNat o.toNat))
  else none

end Header

namespace Headers

def all (headers : Headers) (name : String) : List Header := headers.filter (·.name = name)

def first? (headers : Headers) (name : String) : Option Header := headers.find? (·.name = name)

end Headers
end BootServer.Http
