import BootServer.Dhcp.BootOptions
import BootServer.Dhcp.DomainSearch
import BootServer.Mode
import BootServer.Net.Receive
import BootServer.Store.Basic

/-!
Answering requests. A request without the netboot signature gets no answer and no store is asked
about it. In the modes that have a record for each client, a client without one that allows booting
gets no answer either, and only with reservations is a lease part of the reply.
-/
namespace BootServer.Dhcp

structure Responder where
  mode : Mode
  store : Store
  /-- The address that replies name as their server. -/
  serverIp : Ipv4
  syslogIp : Option Ipv4
  boot : BootConfig
  /-- How many milliseconds the store may take. -/
  timeout : Nat

/-- A longer datagram is cut to this many octets. -/
def maxDatagram : Nat := 1500

/-- A datagram, who sent it, and the port that it came in at. -/
structure Arrival where
  data : Octets
  peer : Endpoint
  localPort : UInt16

/-- The record of a client could not be looked up. -/
structure LookupFailure where
  mac : HardwareAddress
  cause : LookupError
  deriving DecidableEq

def LookupFailure.message (f : LookupFailure) : String :=
  "record lookup for " ++ f.mac.text ++ " failed: " ++ f.cause.message

/-- The lease options in their order; those that are unset or empty are left out. -/
def leaseOptions (syslogIp : Option Ipv4) (r : Record) (reply : Reply) : Reply :=
  let l := r.lease
  reply
    |>.set? Code.subnetMask (l.subnetMask.map Ipv4.octets)
    |>.set? Code.router (l.gateway.map Ipv4.octets)
    |>.set? Code.nameServers (nonEmptyList encodeAddresses l.nameServers)
    |>.set? Code.logServer (syslogIp.map Ipv4.octets)
    |>.set? Code.hostname ((nonEmpty l.hostname).map Octets.ofText)
    |>.set? Code.domainName ((nonEmpty l.domainName).map Octets.ofText)
    |>.set? Code.broadcast (l.broadcast.map Ipv4.octets)
    |>.set? Code.timeServers (nonEmptyList encodeAddresses l.timeServers)
    |>.set Code.leaseTime (Octets.ofWord32 r.leaseTime)
    |>.set? Code.domainSearch (nonEmptyList DomainSearch.encode l.searchDomains)
where
  nonEmptyList {α : Type} (encode : List α → Octets) (l : List α) : Option Octets :=
    if l.isEmpty then none else some (encode l)

namespace Responder

/-- The reply to a request that bears the signature. `reserved` is the record whose address it hands
out, if it hands out any. -/
def reply? (h : Responder) (r : Request) (type : MessageType) (reserved : Option Record) :
    Option Reply := do
  let options ← h.boot.options? r (reserved.bind (·.lease.vlan))
  let reply := (Reply.answering r type).set Code.serverId h.serverIp.octets
  match reserved with
  | none => return options.apply reply
  | some record =>
    let ip ← record.lease.address
    return options.apply (leaseOptions h.syslogIp record { reply with yiaddr := ip })

/-- The reply in a mode that needs a record, given what the store said. -/
def replyFrom (h : Responder) (r : Request) (type : MessageType) :
    Except LookupError (Option Record) → Except LookupFailure (Option Reply)
  | .error cause => .error ⟨r.mac, cause⟩
  | .ok none => .ok none
  | .ok (some record) =>
    if record.boot.allowed then
      .ok (h.reply? r type (if h.mode = .reservation then some record else none))
    else .ok none

/-- Answer one request; no reply is `none`. -/
def handle (h : Responder) (r : Request) : Consulted (Except LookupFailure (Option Reply)) :=
  match r.classify, r.messageType.reply? with
  | .ok _, some type =>
    if h.mode = .autoProxy then { result := .ok (h.reply? r type none) }
    else
      { asked := [.hardware r.mac]
        result := h.replyFrom r type ((h.store.byHardware r.mac).within h.timeout) }
  | _, _ => { result := .ok none }

/-- Answer one datagram, with the datagram sent and where it goes. Whatever is wrong with it, or
goes wrong with the lookup, nothing is sent. -/
def datagram (h : Responder) (data : Octets) (peer : Endpoint) (localPort : UInt16) :
    Consulted (Option (Octets × Endpoint)) :=
  match Packet.parse data with
  | .error _ => { result := none }
  | .ok packet =>
    match Request.ofPacket? packet peer localPort with
    | none => { result := none }
    | some request =>
      let answer := h.handle request
      { asked := answer.asked
        result := match answer.result with
          | .ok (some reply) => some (reply.encode, reply.destination)
          | _ => none }

/-- Answer the datagrams that come in, each for itself, at whichever port it arrives. -/
def serve (h : Responder) (received : List (Except ReceiveError Arrival)) :
    List (Consulted (Option (Octets × Endpoint))) × Option ReceiveError :=
  listen (fun a => h.datagram (a.data.take maxDatagram) a.peer a.localPort) received

end Responder
end BootServer.Dhcp
