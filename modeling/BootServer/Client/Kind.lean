import BootServer.Text.Fields

/-!
How a client boots: over TFTP (PXE) or over HTTP. It says so at the front of its vendor class. Two
user classes count besides: that of iPXE once it runs, and that of an iPXE build with a script of
its own, which asks for the location of the next one.
-/
namespace BootServer

inductive ClientKind where
  | pxe
  | http
  deriving DecidableEq, Repr

namespace ClientKind

/-- The name a vendor class begins with, and which a reply repeats. -/
def name : ClientKind → String
  | .pxe => "PXEClient"
  | .http => "HTTPClient"

def ofVendorClass? (vendorClass : String) : Option ClientKind :=
  [pxe, http].find? fun kind => Text.startsWith kind.name vendorClass

end ClientKind

def ipxeUserClass : String := "iPXE"

def defaultCustomUserClass : String := "Tinkerbell"

end BootServer
