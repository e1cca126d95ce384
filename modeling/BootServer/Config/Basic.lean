import BootServer.Binaries
import BootServer.Config.Options
import BootServer.Dhcp.BootOptions
import BootServer.Image.Payload
import BootServer.Net.Network
import BootServer.Script.Context

/-!
The configuration in force: what each listener is set up from. Addresses that were not given are the
detected address of this host. Exactly one store is chosen, and the one that allows every client
only where no client is looked up.
-/
namespace BootServer

inductive ConfigError where
  | url (field value : String) (cause : Url.Error)
  | trustedProxy (entry : String)
  | twoStores
  | noStore
  | permissiveStore
  | noLocalAddress (flag : String)
  | marker (cause : Image.MarkerError)
  | missing (flag : String)
  deriving DecidableEq

def ConfigError.message : ConfigError → String
  | .url field value cause => "invalid " ++ field ++ " url '" ++ value ++ "': " ++ cause.message
  | .trustedProxy entry => "invalid ip cidr in trusted proxies: '" ++ entry ++ "'"
  | .twoStores => "only one backend can be enabled at a time"
  | .noStore => "no backend enabled: enable the file or the noop backend"
  | .permissiveStore => "noop backend can only be used with --dhcp-mode=auto-proxy"
  | .noLocalAddress flag =>
    "unable to detect a local IPv4 address for " ++ flag ++ "; set it explicitly"
  | .marker cause => "invalid marker: " ++ cause.message
  | .missing flag => flag ++ " must be set"

inductive StoreChoice where
  | file (path : String)
  | permissive
  deriving DecidableEq

structure DhcpSettings where
  address : Ipv4Endpoint
  interface : Option String
  serverIp : Ipv4
  syslogIp : Option Ipv4
  boot : Dhcp.BootConfig

structure TftpSettings where
  address : Ipv4Endpoint
  interface : Option String
  /-- In seconds. -/
  timeout : Nat
  maxBlock : Nat

structure ImageSettings where
  location : String
  marker : Image.Marker
  payload : Image.PayloadSettings

structure HttpSettings where
  address : Endpoint
  binaries : Bool
  script : Option Script.Settings
  image : Option ImageSettings
  trusted : List Network

structure Config where
  mode : Mode
  store : StoreChoice
  /-- In seconds. -/
  lookupTimeout : Nat
  dhcp : Option DhcpSettings
  tftp : Option TftpSettings
  syslog : Option Ipv4Endpoint
  http : HttpSettings
  binaryDirectory : String
  binaryPatch : Option BinaryPatch

end BootServer
