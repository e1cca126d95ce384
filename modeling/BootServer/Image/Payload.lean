import BootServer.Script.Template

/-!
The kernel command line that is written into an installer image for one client.
-/
namespace BootServer.Image

structure PayloadSettings where
  kernelArgs : List String := []
  syslogHost : String := ""
  controlPlane : String := ""
  tls : Bool := false
  insecureTls : Bool := false
  /-- Pass the record's addressing on to the installer. -/
  staticAddressing : Bool := false
  deriving DecidableEq

namespace PayloadSettings

def arguments (s : PayloadSettings) (mac : HardwareAddress) (r : Record) : List String :=
  s.kernelArgs ++ r.boot.kernelArgs
    ++ [Script.consoleFor r]
    ++ ((nonEmpty r.lease.vlan).map ("vlan_id=" ++ ·)).toList
    ++ ["hw_addr=" ++ mac.text,
      "syslog_host=" ++ s.syslogHost,
      "grpc_authority=" ++ s.controlPlane,
      "tinkerbell_tls=" ++ Script.Template.truth s.tls,
      "tinkerbell_insecure_tls=" ++ Script.Template.truth s.insecureTls,
      "worker_id=" ++ mac.text]
    ++ (if s.staticAddressing then ["ipam=" ++ r.addressing mac] else [])

def build (s : PayloadSettings) (mac : HardwareAddress) (r : Record) : String :=
  " ".intercalate (s.arguments mac r)

end PayloadSettings
end BootServer.Image
