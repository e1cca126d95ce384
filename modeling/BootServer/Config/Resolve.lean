import BootServer.Config.Basic

/-!
From options to the configuration in force. The first fault, in the order of the steps here, is the
one that is told. A text option that is set but empty counts as unset.
-/
namespace BootServer

namespace Config.Options

/-- The address of this host, which the option under a flag needs. -/
def localAddress (detected : Option Ipv4) (flag : String) : Except ConfigError Ipv4 :=
  match detected with
  | some ip => .ok ip
  | none => .error (.noLocalAddress flag)

def addressOr (given detected : Option Ipv4) (flag : String) : Except ConfigError Ipv4 :=
  match given with
  | some ip => .ok ip
  | none => localAddress detected flag

def hostOr (given : Option String) (detected : Option Ipv4) (flag : String) :
    Except ConfigError String :=
  match given with
  | some host => .ok host
  | none => (localAddress detected flag).map Ipv4.text

def storeChoice (o : Options) : Except ConfigError StoreChoice :=
  match o.fileStore, o.permissiveStore with
  | true, true => .error .twoStores
  | false, false => .error .noStore
  | true, false =>
    match o.filePath with
    | some path => .ok (.file path)
    | none => .error (.missing "--backend-file-path")
  | false, true => if o.mode = .autoProxy then .ok .permissive else .error .permissiveStore

def proxies (o : Options) : Except ConfigError (List Network) :=
  (Network.parseList o.trustedProxies).mapError .trustedProxy

/-- The syslog server that clients are told. -/
def syslogServer (o : Options) (detected : Option Ipv4) : Except ConfigError (Option Ipv4) :=
  match o.syslogIp with
  | some ip => .ok (some ip)
  | none =>
    if o.syslog then (localAddress detected "--dhcp-syslog-ip").map some else .ok none

def binaryUrl (o : Options) (detected : Option Ipv4) : Except ConfigError Url := do
  let host ← hostOr o.binaryHost detected "--dhcp-http-ipxe-binary-host"
  (BootUrl.build o.binaryScheme host o.binaryPort o.binaryPath).mapError
    (.url "ipxe binary" (o.binaryScheme ++ "://" ++ host))

def scriptBase (o : Options) (detected : Option Ipv4) : Except ConfigError Url :=
  match nonEmpty o.scriptUrl with
  | some raw => (Url.parse raw).mapError (.url "ipxe script" raw)
  | none => do
    let host ← hostOr o.scriptHost detected "--dhcp-http-ipxe-script-host"
    (BootUrl.build o.scriptScheme host o.scriptPort o.scriptPath).mapError
      (.url "ipxe script" (o.scriptScheme ++ "://" ++ host))

def bootConfig (o : Options) (detected : Option Ipv4) : Except ConfigError Dhcp.BootConfig := do
  let tftpIp ← addressOr o.clientTftpIp detected "--dhcp-tftp-ip"
  let binaryUrl ← o.binaryUrl detected
  let base ← o.scriptBase detected
  return {
    tftp := ⟨tftpIp, o.clientTftpPort⟩
    binaryUrl
    script := ⟨base, o.scriptPerClient⟩
    userClass := o.userClass }

def dhcpSettings (o : Options) (detected syslogIp : Option Ipv4) :
    Except ConfigError (Option DhcpSettings) :=
  if o.dhcp then do
    let serverIp ← addressOr o.serverIp detected "--dhcp-ip-for-packet"
    let boot ← o.bootConfig detected
    return some { address := o.dhcpAddress, interface := o.interface, serverIp, syslogIp, boot }
  else .ok none

def tftpSettings (o : Options) : Option TftpSettings :=
  if o.tftp then
    some {
      address := ⟨o.tftpAddress, o.tftpPort⟩
      interface := o.interface
      timeout := max o.tftpTimeout 1
      maxBlock := o.tftpBlockSize }
  else none

def syslogListener (o : Options) : Option Ipv4Endpoint :=
  if o.syslog then some ⟨o.syslogAddress, o.syslogPort⟩ else none

def syslogHost (syslogIp : Option Ipv4) : String := syslogIp.elim "" Ipv4.text

def scriptSettings (o : Options) (syslogIp : Option Ipv4) : Option Script.Settings :=
  if o.serveScript then
    some {
      installerUrl := nonEmpty o.installerUrl
      controlPlane := nonEmpty o.controlPlane
      tls := o.tls
      insecureTls := o.insecureTls
      kernelArgs := Text.words o.kernelArgs
      syslogHost := syslogHost syslogIp
      retries := o.retries
      retryDelay := o.retryDelay
      static := o.mode = .autoProxy
      staticAddressing := o.staticAddressing }
  else none

def payloadSettings (o : Options) (syslogIp : Option Ipv4) : Image.PayloadSettings where
  kernelArgs := Text.words o.kernelArgs
  syslogHost := syslogHost syslogIp
  controlPlane := (nonEmpty o.controlPlane).getD ""
  tls := o.tls
  insecureTls := o.insecureTls
  staticAddressing := o.staticAddressing

def markerOf (text : String) : Except ConfigError Image.Marker :=
  (Image.Marker.ofOctets (Octets.ofText text)).mapError .marker

def imageSettings (o : Options) (syslogIp : Option Ipv4) :
    Except ConfigError (Option ImageSettings) :=
  if o.image then
    match nonEmpty o.imageLocation with
    | none => .error (.missing "--iso-url")
    | some location => do
      let marker ← markerOf ((nonEmpty o.imageMarker).getD Image.Marker.defaultText)
      return some { location, marker, payload := o.payloadSettings syslogIp }
  else .ok none

/-- The script to write into binaries, which has to fit. -/
def binaryPatch (o : Options) : Except ConfigError (Option BinaryPatch) :=
  match nonEmpty o.binaryScript with
  | none => .ok none
  | some script => do
    let marker ← markerOf Binaries.placeholder
    let script := Octets.ofText script
    if script.length > marker.length then
      throw (.marker (.scriptTooLong script.length marker.length))
    return some { marker, script }

end Config.Options

namespace Config

def resolve (o : Options) (detected : Option Ipv4) : Except ConfigError Config := do
  let store ← o.storeChoice
  let trusted ← o.proxies
  let syslogIp ← o.syslogServer detected
  let dhcp ← o.dhcpSettings detected syslogIp
  let image ← o.imageSettings syslogIp
  let binaryPatch ← o.binaryPatch
  return {
    mode := o.mode
    store
    lookupTimeout := max o.lookupTimeout 1
    dhcp
    tftp := o.tftpSettings
    syslog := o.syslogListener
    http := {
      address := ⟨o.httpAddress, o.httpPort⟩
      binaries := o.serveBinaries
      script := o.scriptSettings syslogIp
      image
      trusted }
    binaryDirectory := o.binaryDirectory
    binaryPatch }

end Config
end BootServer
