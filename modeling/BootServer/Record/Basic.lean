import BootServer.Net.HardwareAddress
import BootServer.Net.Ipv4

/-!
Boot records: what a store knows about one client. A record holds the lease it is given over DHCP
and what it may boot.
-/
namespace BootServer

/-- Lease fields; one that is unset is not handed out. -/
structure Lease where
  address : Option Ipv4 := none
  subnetMask : Option Ipv4 := none
  gateway : Option Ipv4 := none
  nameServers : List Ipv4 := []
  hostname : Option String := none
  domainName : Option String := none
  broadcast : Option Ipv4 := none
  timeServers : List Ipv4 := []
  leaseTime : Option UInt32 := none
  searchDomains : List String := []
  vlan : Option String := none
  /-- Hint at the architecture, such as `x86_64` or `aarch64`. -/
  arch : Option String := none
  deriving DecidableEq

/-- Where a client finds its installer, as far as that differs from the server's settings. -/
structure Installer where
  baseUrl : Option String := none
  kernel : Option String := none
  initrd : Option String := none
  deriving DecidableEq

structure BootSettings where
  allowed : Bool := false
  scriptUrl : Option String := none
  script : Option String := none
  installer : Installer := {}
  kernelArgs : List String := []
  console : Option String := none
  facility : Option String := none
  deriving DecidableEq

structure Record where
  lease : Lease := {}
  boot : BootSettings := {}
  deriving DecidableEq

/-- A text that is set and not empty. -/
def nonEmpty (s : Option String) : Option String := s.filter (· ≠ "")

theorem nonEmpty_eq_some_iff {text : Option String} {s : String} :
    nonEmpty text = some s ↔ text = some s ∧ s ≠ "" := by
  simp [nonEmpty, Option.filter_eq_some_iff]

namespace Record

/-- A record that allows booting and says nothing else. -/
def permissive : Record := { boot := { allowed := true } }

def isArm64 (r : Record) : Bool := r.lease.arch = some "aarch64" || r.lease.arch = some "arm64"

def defaultLeaseTime : UInt32 := 86400

def leaseTime (r : Record) : UInt32 := r.lease.leaseTime.getD defaultLeaseTime

/-- The static addressing of a client, as its installer reads it: colons between the fields, commas
inside those that are lists. -/
def addressing (r : Record) (mac : HardwareAddress) : String :=
  let l := r.lease
  let address (ip : Option Ipv4) : String := (ip.map Ipv4.text).getD ""
  let addresses (ips : List Ipv4) : String := ",".intercalate (ips.map Ipv4.text)
  ":".intercalate [
    mac.dashed,
    l.vlan.getD "",
    address l.address,
    address l.subnetMask,
    address l.gateway,
    l.hostname.getD "",
    addresses l.nameServers,
    ",".intercalate l.searchDomains,
    addresses l.timeServers]

end Record
end BootServer
