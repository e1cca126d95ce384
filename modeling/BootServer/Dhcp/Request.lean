import BootServer.Client.Kind
import BootServer.Dhcp.Packet
import BootServer.Net.Address

/-!
Requests of clients: what a packet says that matters here, and where it came from. A request is one
for a boot if it bears the netboot signature.
-/
namespace BootServer.Dhcp

structure Request where
  xid : UInt32
  flags : UInt16
  hops : UInt8
  mac : HardwareAddress
  messageType : MessageType
  ciaddr : Ipv4
  giaddr : Ipv4
  requestedAddress : Option Ipv4
  arch : Option UInt16
  clientNetwork : Option Octets
  machineId : Option Octets
  vendorClass : Option String
  userClass : Option String
  peer : Endpoint
  /-- The port the packet arrived on. -/
  localPort : UInt16
  deriving DecidableEq

/-- Why a request is not one for a boot. -/
inductive Ignored where
  | messageType
  | vendorClass
  | missingArch
  | missingNetwork
  | malformedMachineId
  deriving DecidableEq, Repr

namespace Request

/-- Replies, and packets without a message type, are no requests. -/
def ofPacket? (p : Packet) (peer : Endpoint) (localPort : UInt16) : Option Request :=
  if p.isRequest then
    p.messageType?.map fun t => {
      xid := p.xid
      flags := p.flags
      hops := p.hops
      mac := p.mac
      messageType := t
      ciaddr := p.ciaddr
      giaddr := p.giaddr
      requestedAddress := p.requestedAddress?
      arch := p.clientArch?
      clientNetwork := p.clientNetwork?
      machineId := p.machineId?
      vendorClass := p.vendorClass?
      userClass := p.userClass?
      peer := peer
      localPort := localPort }
  else none

def kind? (r : Request) : Option ClientKind := r.vendorClass.bind ClientKind.ofVendorClass?

/-- A machine identifier is seventeen octets, of which the first is zero. -/
def isMachineId (id : Octets) : Bool := id.length = 17 && id.head? = some 0

/-- Check the netboot signature: a message type that is answered, the vendor class of a booting
client, an architecture, a network interface, and a well-formed machine identifier if there is
one. -/
def classify (r : Request) : Except Ignored ClientKind :=
  if r.messageType.reply?.isNone then .error .messageType
  else
    match r.kind? with
    | none => .error .vendorClass
    | some kind =>
      if r.arch.isNone then .error .missingArch
      else if r.clientNetwork.isNone then .error .missingNetwork
      else if r.machineId.any (!isMachineId ·) then .error .malformedMachineId
      else .ok kind

end Request
end BootServer.Dhcp
