import BootServer.Json.Basic
import BootServer.Record.Basic

/-!
Reading a record from structured data. Records are written in more than one format, so the formats
are a parameter: how a value of one is seen as text, as a flag, as a list or as members. Lease
fields are typed by the value alone; boot settings are typed by the field. Unknown members do not
matter, and a known one that occurs twice is refused.
-/
namespace BootServer

/-- How a format's values are seen. `none` and failure mean that a value cannot be seen that way. A
value may refer to another one, and a format may limit how often references are followed: that is
what the monad is for. -/
structure Format (m : Type → Type) (ν : Type) where
  /-- The value itself, behind the reference to it. -/
  target : ν → m ν
  /-- The value by its own type. -/
  typed : ν → m Json
  members : ν → m (List (String × ν))
  /-- Whether a field that may be unset is left unset. -/
  unset : ν → Option Bool
  text : ν → Option String
  flag : ν → Option Bool
  list : ν → Option (List ν)
  /-- The values of a group of fields that are listed in the order of the fields, without names. -/
  inOrder : ν → Option (List ν)

namespace Record

/-- The value of a field, under any of its names; refused if it occurs twice. -/
def once {ν : Type} (names : List String) (members : List (String × ν)) : Option (Option ν) :=
  match members.filter fun m => m.1 ∈ names with
  | [] => some none
  | [(_, v)] => some (some v)
  | _ => none

/-- Read a field, with a default for one that is missing. -/
def field {m : Type → Type} [Monad m] [MonadLiftT Option m] {ν α : Type}
    (members : List (String × ν)) (names : List String) (default : α) (read : ν → m α) : m α := do
  match ← once names members with
  | none => return default
  | some v => read v

/-! ## Lease fields -/

def leaseText : Json → Option String
  | .text s => some s
  | _ => none

def leaseAddress (v : Json) : Option Ipv4 := (leaseText v).bind Ipv4.parse?

def leaseSeconds : Json → Option UInt32
  | .int i => if 0 ≤ i && i ≤ Text.Decimal.max32 then some (.ofNat i.toNat) else none
  | _ => none

def orUnset {α : Type} (read : Json → Option α) : Json → Option (Option α)
  | .null => some none
  | v => (read v).map some

def each {α : Type} (read : Json → Option α) : Json → Option (List α)
  | .list items => items.mapM read
  | _ => none

def lease? (members : List (String × Json)) : Option Lease := do
  return {
    address := ← field members ["ipAddress"] none (orUnset leaseAddress)
    subnetMask := ← field members ["subnetMask"] none (orUnset leaseAddress)
    gateway := ← field members ["defaultGateway"] none (orUnset leaseAddress)
    nameServers := ← field members ["nameServers"] [] (each leaseAddress)
    hostname := ← field members ["hostname"] none (orUnset leaseText)
    domainName := ← field members ["domainName"] none (orUnset leaseText)
    broadcast := ← field members ["broadcastAddress"] none (orUnset leaseAddress)
    timeServers := ← field members ["ntpServers"] [] (each leaseAddress)
    leaseTime := ← field members ["leaseTime"] none (orUnset leaseSeconds)
    searchDomains := ← field members ["domainSearch"] [] (each leaseText)
    vlan := ← field members ["vlanId"] none (orUnset leaseText)
    arch := ← field members ["arch"] none (orUnset leaseText) }

/-! ## Boot settings -/

section
variable {m : Type → Type} [Monad m] [MonadLiftT Option m] {ν : Type} (f : Format m ν)

def textOrUnset (v : ν) : m (Option String) := do
  let v ← f.target v
  if ← f.unset v then return none else return some (← f.text v)

def texts (v : ν) : m (List String) := do
  let items ← f.list (← f.target v)
  items.mapM fun item => do f.text (← f.target item)

def flag (v : ν) : m Bool := do f.flag (← f.target v)

/-- Values under names in order; the values may be fewer. -/
def byPosition (names : List String) (items : List ν) : Option (List (String × ν)) :=
  if items.length ≤ names.length then some (names.zip items) else none

/-- The members of a group of fields, which a format may let one list by position. -/
def group (names : List String) (v : ν) : m (List (String × ν)) := do
  let v ← f.target v
  match f.inOrder v with
  | some items => byPosition names items
  | none => f.members v

def installer (v : ν) : m Installer := do
  let members ← group f ["baseUrl", "kernel", "initrd"] v
  return {
    baseUrl := ← field members ["baseUrl"] none (textOrUnset f)
    kernel := ← field members ["kernel"] none (textOrUnset f)
    initrd := ← field members ["initrd"] none (textOrUnset f) }

def bootSettings (v : ν) : m BootSettings := do
  let members ← group f
    ["allowNetboot", "ipxeScriptUrl", "ipxeScript", "osie", "extraKernelArgs", "console",
      "facility"] v
  return {
    allowed := ← field members ["allowNetboot", "allowPxe"] false (flag f)
    scriptUrl := ← field members ["ipxeScriptUrl"] none (textOrUnset f)
    script := ← field members ["ipxeScript"] none (textOrUnset f)
    installer := ← field members ["osie"] {} (installer f)
    kernelArgs := ← field members ["extraKernelArgs"] [] (texts f)
    console := ← field members ["console"] none (textOrUnset f)
    facility := ← field members ["facility"] none (textOrUnset f) }

/-- Read a record. Every member but the boot settings is seen by its own type, known or not. -/
def read (v : ν) : m Record := do
  let members ← f.members (← f.target v)
  let typed ← (members.filter (·.1 ≠ "netboot")).mapM fun (name, v) => do
    return (name, ← f.typed v)
  return {
    lease := ← lease? typed
    boot := ← field members ["netboot"] {} (bootSettings f) }

end

end Record
end BootServer
