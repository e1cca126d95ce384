import BootServer.Script.Context
import BootServer.Text.Decimal

/-!
The text of a rendered boot script. It loads kernel and initial file system with a number of retries
each and then boots. Values stand in it exactly as they are.
-/
namespace BootServer.Script.Template

/-- The values a script is filled with, all of them known. -/
structure Values where
  baseUrl : String
  controlPlane : String
  context : Context

def truth (b : Bool) : String := if b then "true" else "false"

/-- Count a failed attempt and wait, or give up with `failure`. -/
def retry (failure again : String) : String :=
  " || iseq " ++ loaderVar "idx" ++ " " ++ loaderVar "retries" ++ " && goto " ++ failure
    ++ " || inc idx && echo retry in " ++ loaderVar "retry_delay" ++ " seconds ; sleep "
    ++ loaderVar "retry_delay" ++ " ; goto " ++ again

def argument (name : String) (value : Option String) : String :=
  (value.map fun v => " " ++ name ++ "=" ++ v).getD ""

/-- An argument that hands on a variable of the script under its own name. -/
def handedOn (name : String) : String := argument name (some (loaderVar name))

def kernelLine (c : Context) : String :=
  "kernel " ++ loaderVar "base-url" ++ "/" ++ c.kernel
    ++ argument "vlan_id" c.vlan
    ++ "".intercalate (c.kernelArgs.map (" " ++ ·))
    ++ argument "facility" (some c.facility)
    ++ handedOn "syslog_host"
    ++ handedOn "grpc_authority"
    ++ handedOn "tinkerbell_tls"
    ++ handedOn "tinkerbell_insecure_tls"
    ++ handedOn "worker_id"
    ++ argument "hw_addr" (some c.hardwareAddress)
    ++ argument "ipam" c.addressing
    ++ " modules=loop,squashfs,sd-mod,usb-storage intel_iommu=on iommu=pt"
    ++ argument "initrd" (some c.initrd)
    ++ " " ++ c.console ++ " && goto download_initrd" ++ retry "kernel-error" "retry_kernel"

def aliasLine (arch canonical : String) : String :=
  "iseq " ++ loaderVar "arch" ++ " " ++ arch ++ " && set arch " ++ canonical ++ " ||"

def shown (name : String) : String := "echo " ++ name ++ "=" ++ loaderVar name

def failure (label message : String) : List String :=
  [":" ++ label, "echo " ++ message, "imgfree", "exit"]

def lines (v : Values) : List String :=
  let c := v.context
  ["#!ipxe",
    "",
    "echo Loading the in-memory installer environment...",
    "",
    "set arch " ++ loaderVar "buildarch"]
  ++ (c.arch.map ("set arch " ++ ·)).toList
  ++ [aliasLine "i386" "x86_64",
    aliasLine "arm32" "aarch64",
    aliasLine "arm64" "aarch64",
    "set base-url " ++ v.baseUrl,
    "set retries:int32 " ++ Text.Decimal.text c.retries.toNat,
    "set retry_delay:int32 " ++ Text.Decimal.text c.retryDelay.toNat,
    "",
    "set worker_id " ++ c.hardwareAddress,
    "set grpc_authority " ++ v.controlPlane,
    "set syslog_host " ++ c.syslogHost,
    "set tinkerbell_tls " ++ truth c.tls,
    "set tinkerbell_insecure_tls " ++ truth c.insecureTls,
    "",
    shown "worker_id",
    shown "grpc_authority",
    shown "syslog_host",
    shown "tinkerbell_tls",
    shown "tinkerbell_insecure_tls",
    "",
    "set idx:int32 0",
    ":retry_kernel",
    kernelLine c,
    "",
    ":download_initrd",
    "set idx:int32 0",
    ":retry_initrd",
    "initrd " ++ loaderVar "base-url" ++ "/" ++ c.initrd ++ " && goto boot"
      ++ retry "initrd-error" "retry_initrd",
    "",
    ":boot",
    "set idx:int32 0",
    ":retry_boot",
    "boot" ++ retry "boot-error" "retry_boot",
    ""]
  ++ failure "kernel-error" "Failed to load kernel"
  ++ [""]
  ++ failure "initrd-error" "Failed to load initrd"
  ++ [""]
  ++ failure "boot-error" "Failed to boot"

def render (v : Values) : String := "\n".intercalate (lines v)

end BootServer.Script.Template
