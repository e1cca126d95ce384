import BootServer.BootUrl
import BootServer.Client.Arch
import BootServer.Dhcp.Reply
import BootServer.Text.Blank

/-!
What a client is told to boot: the server, the boot file, and the PXE options that keep it from
looking for a boot server. The client's architecture selects the binary; its kind and user class
select how the binary, or the script that follows it, is named.
-/
namespace BootServer.Dhcp

/-- Where clients are sent. -/
structure BootConfig where
  tftp : Ipv4Endpoint
  /-- The directory of the binaries. -/
  binaryUrl : Url
  script : ScriptUrl
  /-- User class of binaries that only need the location of the script. -/
  userClass : String

structure BootOptions where
  nextServer : Ipv4
  bootFile : String
  kind : ClientKind
  vendorOptions : Octets
  machineId : Option Octets
  deriving DecidableEq

/-! ## Vendor options -/

def maxVlan : Nat := 4095

/-- A VLAN identifier in decimal, blanks around it aside. -/
def vlan? (s : String) : Option Nat :=
  (Text.Decimal.read? Text.Decimal.max16 (Text.trim s)).filter (· ≤ maxVlan)

/-- Sub-option 6: boot the given file without discovery. -/
def discoveryControl : Octets := [6, 1, 8]

def vlanCode : UInt8 := 116

/-- The sub-options of option 43; a VLAN that cannot be read is left out. -/
def vendorOptions (vlan : Option String) : Octets :=
  match vlan.bind vlan? with
  | some id => discoveryControl ++ encodeItem vlanCode (Octets.ofText (Text.Decimal.text id))
  | none => discoveryControl

namespace BootConfig

def binaryLocation (c : BootConfig) (binary : String) : String :=
  Text.trimEndWhile (· = '/') c.binaryUrl.text ++ "/" ++ binary

def tftpLocation (c : BootConfig) (binary : String) : String :=
  "tftp://" ++ BootUrl.authority "tftp" c.tftp.ip.text c.tftp.port ++ "/" ++ binary

/-- The next server and the boot file. -/
def target (c : BootConfig) (kind : ClientKind) (r : Request) (binary : String) : Ipv4 × String :=
  if r.userClass = some c.userClass then (.unspecified, (c.script.forClient r.mac).text)
  else if kind = .http then (c.binaryUrl.ipv4Host?.getD .unspecified, c.binaryLocation binary)
  else if r.userClass = some ipxeUserClass then (c.tftp.ip, c.tftpLocation binary)
  else (c.tftp.ip, binary)

/-- The boot options for a request; `none` if its architecture cannot be booted. -/
def options? (c : BootConfig) (r : Request) (vlan : Option String) : Option BootOptions := do
  let binary ← (Arch.ofCode (← r.arch)).binary?
  let kind := r.kind?.getD .pxe
  let (nextServer, bootFile) := c.target kind r binary
  return {
    nextServer, bootFile, kind
    vendorOptions := vendorOptions vlan
    machineId := r.machineId }

end BootConfig

def BootOptions.apply (o : BootOptions) (reply : Reply) : Reply :=
  { reply with siaddr := o.nextServer, file := some o.bootFile }
    |>.set Code.vendorClass (Octets.ofText o.kind.name)
    |>.set Code.vendorSpecific o.vendorOptions
    |>.set? Code.machineId o.machineId

end BootServer.Dhcp
