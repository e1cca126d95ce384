import BootServer.Dhcp.Request

/-!
Replies and their wire form. Options keep the order in which their codes were first set; the message
type always comes first.
-/
namespace BootServer.Dhcp

/-- Option values by code. -/
abbrev Options := List (UInt8 × Octets)

namespace Options

/-- Replace the value of a code where it stands, or add it at the end. -/
def set (code : UInt8) (value : Octets) : Options → Options
  | [] => [(code, value)]
  | (c, v) :: rest => if c = code then (code, value) :: rest else (c, v) :: set code value rest

def get? (code : UInt8) (options : Options) : Option Octets := options.lookup code

def encode (options : Options) : Octets :=
  options.flatMap fun (code, value) => encodeItem code value

end Options

structure Reply where
  messageType : MessageType
  xid : UInt32
  flags : UInt16
  hops : UInt8
  mac : HardwareAddress
  ciaddr : Ipv4
  yiaddr : Ipv4
  siaddr : Ipv4
  giaddr : Ipv4
  sname : Option String
  file : Option String
  options : Options
  destination : Endpoint
  deriving DecidableEq

namespace Reply

/-- A relayed request is answered through its relay, one on the proxy port straight back, one from a
client that has an address there, and any other by broadcast. -/
def destinationFor (r : Request) : Endpoint :=
  if !r.giaddr.isUnspecified then ⟨.v4 r.giaddr, serverPort⟩
  else if r.localPort = proxyPort then r.peer
  else if !r.ciaddr.isUnspecified then ⟨.v4 r.ciaddr, clientPort⟩
  else ⟨.v4 Ipv4.broadcast, clientPort⟩

/-- The reply that says nothing yet. -/
def answering (r : Request) (type : MessageType) : Reply where
  messageType := type
  xid := r.xid
  flags := r.flags
  hops := r.hops
  mac := r.mac
  ciaddr := r.ciaddr
  yiaddr := .unspecified
  siaddr := .unspecified
  giaddr := r.giaddr
  sname := none
  file := none
  options := []
  destination := destinationFor r

def set (reply : Reply) (code : UInt8) (value : Octets) : Reply :=
  { reply with options := reply.options.set code value }

/-- Set an option if there is a value for it. -/
def set? (reply : Reply) (code : UInt8) (value : Option Octets) : Reply :=
  match value with
  | some value => reply.set code value
  | none => reply

def option? (reply : Reply) (code : UInt8) : Option Octets := reply.options.get? code

/-- A datagram has at least this many octets. -/
def minimumSize : Nat := 300

/-- A header field of `size` octets, of which at least the last is zero. -/
def field (size : Nat) (text : Option String) : Octets :=
  Octets.fit size ((Octets.ofText (text.getD "")).take (size - 1))

def header (reply : Reply) : Octets :=
  [2, 1, 6, reply.hops] ++ Octets.ofWord32 reply.xid ++ [0, 0] ++ Octets.ofWord16 reply.flags
    ++ reply.ciaddr.octets ++ reply.yiaddr.octets ++ reply.siaddr.octets ++ reply.giaddr.octets
    ++ reply.mac.octets ++ Octets.zeros 10 ++ field 64 reply.sname ++ field 128 reply.file ++ cookie

def encode (reply : Reply) : Octets :=
  let datagram := reply.header ++ encodeItem Code.messageType [reply.messageType.code]
    ++ reply.options.encode ++ [Code.finish]
  datagram ++ Octets.zeros (minimumSize - datagram.length)

end Reply

/-- Addresses one after the other. -/
def encodeAddresses (ips : List Ipv4) : Octets := ips.flatMap Ipv4.octets

end BootServer.Dhcp
