import BootServer.Proofs.Script.Form
import BootServer.Proofs.Script.Parameters

/-! Which script a client is served. A script of its own comes first, then one to go on to, whatever
the settings are; otherwise a script is rendered, exactly if the location of the installer and the
control plane are there, and what is missing first is told. -/
namespace BootServer.Script

variable {s : Settings} {mac : Option HardwareAddress} {record : Option Record} {r : Record}
variable {url controlPlane base script : String} {e : Error}

/-! ## What a script needs -/

/-- Can it be fetched from? -/
def IsHttp (url : String) : Prop :=
  ∃ u, Url.parse url = .ok u ∧ (u.scheme = "http" ∨ u.scheme = "https")

/-- The location of the installer that is in force: that of the record, or else that of the
server. -/
def installerUrl (s : Settings) (record : Option Record) : Option String :=
  (record.bind fun r => nonEmpty r.boot.installer.baseUrl).or s.installerUrl

/-- All that a script needs is there. -/
structure Complete (s : Settings) (record : Option Record) (url controlPlane : String) : Prop where
  located : installerUrl s record = some url
  fetchable : IsHttp url
  controlled : s.controlPlane = some controlPlane
  named : controlPlane ≠ ""

/-- The values that a script has only if they are set. -/
def Context.optional (c : Context) : List String :=
  c.vlan.toList ++ c.addressing.toList ++ c.arch.toList

namespace Template

end Template

def scripted : Record := { boot := { script := some "#!ipxe\nexit\n" } }

end BootServer.Script
