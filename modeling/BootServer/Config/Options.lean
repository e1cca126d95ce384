import BootServer.Client.Kind
import BootServer.Config.CommandLine

/-!
The options of the server, with their defaults and the flags that set them.
-/
namespace BootServer.Config

structure Options where
  mode : Mode := .reservation
  dhcp : Bool := true
  dhcpAddress : Ipv4Endpoint := ⟨.unspecified, 67⟩
  /-- The interface that datagrams are received on. -/
  interface : Option String := none
  serverIp : Option Ipv4 := none
  syslogIp : Option Ipv4 := none
  clientTftpIp : Option Ipv4 := none
  clientTftpPort : UInt16 := 69
  binaryScheme : String := "http"
  binaryHost : Option String := none
  binaryPort : UInt16 := 7171
  binaryPath : String := "/ipxe/"
  scriptScheme : String := "http"
  scriptHost : Option String := none
  scriptPort : UInt16 := 7171
  scriptPath : String := "/auto.ipxe"
  /-- Takes the place of scheme, host, port and path. -/
  scriptUrl : Option String := none
  scriptPerClient : Bool := true
  userClass : String := defaultCustomUserClass
  tftp : Bool := true
  tftpAddress : Ipv4 := .unspecified
  tftpPort : UInt16 := 69
  /-- In seconds. -/
  tftpTimeout : Nat := 5
  tftpBlockSize : Nat := 512
  binaryDirectory : String := "/var/lib/netbootd/ipxe"
  binaryScript : Option String := none
  serveBinaries : Bool := true
  serveScript : Bool := true
  httpAddress : IpAddress := .v4 .unspecified
  httpPort : UInt16 := 7171
  installerUrl : Option String := none
  controlPlane : Option String := none
  tls : Bool := false
  insecureTls : Bool := false
  kernelArgs : String := ""
  retries : UInt32 := 10
  retryDelay : UInt32 := 2
  trustedProxies : String := ""
  syslog : Bool := true
  syslogAddress : Ipv4 := .unspecified
  syslogPort : UInt16 := 514
  fileStore : Bool := false
  filePath : Option String := none
  permissiveStore : Bool := false
  /-- In seconds. -/
  lookupTimeout : Nat := 5
  image : Bool := false
  imageLocation : Option String := none
  imageMarker : Option String := none
  staticAddressing : Bool := false
  logLevel : String := "info"

namespace Options

def flags : List (Flag Options) := [
  .of "dhcp-mode" .mode fun o v => { o with mode := v },
  .toggle "dhcp-enabled" fun o v => { o with dhcp := v },
  .of "dhcp-addr" .ipv4Endpoint fun o v => { o with dhcpAddress := v },
  .of "dhcp-iface" (.optional .text) fun o v => { o with interface := v },
  .of "dhcp-ip-for-packet" (.optional .ipv4) fun o v => { o with serverIp := v },
  .of "dhcp-syslog-ip" (.optional .ipv4) fun o v => { o with syslogIp := v },
  .of "dhcp-tftp-ip" (.optional .ipv4) fun o v => { o with clientTftpIp := v },
  .of "dhcp-tftp-port" .word16 fun o v => { o with clientTftpPort := v },
  .of "dhcp-http-ipxe-binary-scheme" .text fun o v => { o with binaryScheme := v },
  .of "dhcp-http-ipxe-binary-host" (.optional .text) fun o v => { o with binaryHost := v },
  .of "dhcp-http-ipxe-binary-port" .word16 fun o v => { o with binaryPort := v },
  .of "dhcp-http-ipxe-binary-path" .text fun o v => { o with binaryPath := v },
  .of "dhcp-http-ipxe-script-scheme" .text fun o v => { o with scriptScheme := v },
  .of "dhcp-http-ipxe-script-host" (.optional .text) fun o v => { o with scriptHost := v },
  .of "dhcp-http-ipxe-script-port" .word16 fun o v => { o with scriptPort := v },
  .of "dhcp-http-ipxe-script-path" .text fun o v => { o with scriptPath := v },
  .of "dhcp-http-ipxe-script-url" (.optional .text) fun o v => { o with scriptUrl := v },
  .toggle "dhcp-http-ipxe-script-prepend-mac" fun o v => { o with scriptPerClient := v },
  .of "dhcp-custom-user-class" .text fun o v => { o with userClass := v },
  .toggle "tftp-enabled" fun o v => { o with tftp := v },
  .of "tftp-addr" .ipv4 fun o v => { o with tftpAddress := v },
  .of "tftp-port" .word16 fun o v => { o with tftpPort := v },
  .of "tftp-timeout" .number fun o v => { o with tftpTimeout := v },
  .of "tftp-block-size" .number fun o v => { o with tftpBlockSize := v },
  .of "ipxe-binary-dir" .path fun o v => { o with binaryDirectory := v },
  .of "ipxe-script-patch" (.optional .text) fun o v => { o with binaryScript := v },
  .toggle "http-ipxe-binary-enabled" fun o v => { o with serveBinaries := v },
  .toggle "http-ipxe-script-enabled" fun o v => { o with serveScript := v },
  .of "http-addr" .ipAddress fun o v => { o with httpAddress := v },
  .of "http-port" .word16 fun o v => { o with httpPort := v },
  .of "osie-url" (.optional .text) fun o v => { o with installerUrl := v },
  .of "tink-server" (.optional .text) fun o v => { o with controlPlane := v },
  .toggle "tink-server-tls" fun o v => { o with tls := v },
  .toggle "tink-server-insecure-tls" fun o v => { o with insecureTls := v },
  .of "extra-kernel-args" .text fun o v => { o with kernelArgs := v },
  .of "ipxe-script-retries" .word32 fun o v => { o with retries := v },
  .of "ipxe-script-retry-delay" .word32 fun o v => { o with retryDelay := v },
  .of "trusted-proxies" .text fun o v => { o with trustedProxies := v },
  .toggle "syslog-enabled" fun o v => { o with syslog := v },
  .of "syslog-addr" .ipv4 fun o v => { o with syslogAddress := v },
  .of "syslog-port" .word16 fun o v => { o with syslogPort := v },
  .toggle "backend-file-enabled" fun o v => { o with fileStore := v },
  .of "backend-file-path" (.optional .path) fun o v => { o with filePath := v },
  .toggle "backend-noop-enabled" fun o v => { o with permissiveStore := v },
  .of "backend-timeout" .number fun o v => { o with lookupTimeout := v },
  .toggle "iso-enabled" fun o v => { o with image := v },
  .of "iso-url" (.optional .text) fun o v => { o with imageLocation := v },
  .of "iso-magic-string" (.optional .text) fun o v => { o with imageMarker := v },
  .toggle "iso-static-ipam-enabled" fun o v => { o with staticAddressing := v },
  .of "log-level" .text fun o v => { o with logLevel := v }]

def read (words : List String) (environment : String → Option String) :
    Except UsageError Options :=
  CommandLine.read flags {} words environment

end Options
end BootServer.Config
