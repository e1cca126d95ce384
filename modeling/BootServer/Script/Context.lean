import BootServer.Record.Basic

/-!
What a boot script is rendered from: the server's settings, and over them whatever the client's
record sets. A text that is set but empty counts as unset.
-/
namespace BootServer.Script

structure Settings where
  /-- Where the installer environment is. -/
  installerUrl : Option String := none
  /-- Host and port of the control plane. -/
  controlPlane : Option String := none
  tls : Bool := false
  insecureTls : Bool := false
  kernelArgs : List String := []
  syslogHost : String := ""
  retries : UInt32 := 0
  retryDelay : UInt32 := 0
  /-- One script for all clients, which takes the hardware address from the booting machine. -/
  static : Bool := false
  /-- Pass the record's addressing on to the installer. -/
  staticAddressing : Bool := false
  deriving DecidableEq

structure Context where
  hardwareAddress : String
  installerUrl : Option String
  kernel : String
  initrd : String
  kernelArgs : List String
  controlPlane : Option String
  tls : Bool
  insecureTls : Bool
  retries : UInt32
  retryDelay : UInt32
  syslogHost : String
  vlan : Option String
  addressing : Option String
  arch : Option String
  console : String
  facility : String
  deriving DecidableEq

/-- A variable that the boot loader fills in. -/
def loaderVar (name : String) : String := "$\x7b" ++ name ++ "\x7d"

def runtimeAddress : String := loaderVar "net0/mac"

def defaultKernel : String := "vmlinuz-" ++ loaderVar "arch"

def defaultInitrd : String := "initramfs-" ++ loaderVar "arch"

def defaultFacility : String := "onprem"

def defaultConsole (arm64 : Bool) : String :=
  if arm64 then "console=ttyAMA0" else "console=tty0 console=ttyS0,115200"

/-- The console arguments for a client. -/
def consoleFor (r : Record) : String :=
  match nonEmpty r.boot.console with
  | some console => "console=" ++ console
  | none => defaultConsole r.isArm64

namespace Settings

/-- The address a script names its client by. -/
def addressFor (s : Settings) (mac : Option HardwareAddress) : String :=
  match mac with
  | some mac => if s.static then runtimeAddress else mac.text
  | none => runtimeAddress

/-- What a client without a record is given. -/
def base (s : Settings) (mac : Option HardwareAddress) : Context where
  hardwareAddress := s.addressFor mac
  installerUrl := s.installerUrl
  kernel := defaultKernel
  initrd := defaultInitrd
  kernelArgs := s.kernelArgs
  controlPlane := s.controlPlane
  tls := s.tls
  insecureTls := s.insecureTls
  retries := s.retries
  retryDelay := s.retryDelay
  syslogHost := s.syslogHost
  vlan := none
  addressing := none
  arch := none
  console := defaultConsole false
  facility := defaultFacility

def context (s : Settings) (mac : Option HardwareAddress) (record : Option Record) : Context :=
  let base := s.base mac
  match record with
  | none => base
  | some r =>
    { base with
      installerUrl := (nonEmpty r.boot.installer.baseUrl).or base.installerUrl
      kernel := (nonEmpty r.boot.installer.kernel).getD base.kernel
      initrd := (nonEmpty r.boot.installer.initrd).getD base.initrd
      kernelArgs := base.kernelArgs ++ r.boot.kernelArgs
      vlan := nonEmpty r.lease.vlan
      addressing := if s.staticAddressing then mac.map r.addressing else none
      arch := nonEmpty r.lease.arch
      console := consoleFor r
      facility := (nonEmpty r.boot.facility).getD base.facility }

end Settings
end BootServer.Script
