import BootServer.Dhcp.PacketOption
import BootServer.Net.HardwareAddress

/-!
DHCP packets as they arrive: the BOOTP header, and the options in the order of the wire. Only
Ethernet hardware addresses are read.
-/
namespace BootServer.Dhcp

structure Packet where
  op : UInt8
  htype : UInt8
  hlen : UInt8
  hops : UInt8
  xid : UInt32
  secs : UInt16
  flags : UInt16
  ciaddr : Ipv4
  yiaddr : Ipv4
  siaddr : Ipv4
  /-- Address of the relay. -/
  giaddr : Ipv4
  mac : HardwareAddress
  sname : Option String
  file : Option String
  options : List PacketOption
  deriving DecidableEq

namespace Packet

/-- A header field that ends at its first NUL; one that is empty or not UTF-8 is unset. -/
def fieldText (field : Octets) : Option String :=
  let name := Octets.untilNul field
  if name.isEmpty then none else Text.Utf8.decode? name

/-- Read one datagram. -/
def parse : Octets → Except ParseError Packet
  | data@(op :: htype :: hlen :: hops :: x1 :: x2 :: x3 :: x4 :: s1 :: s2 :: f1 :: f2
      :: c1 :: c2 :: c3 :: c4 :: y1 :: y2 :: y3 :: y4 :: n1 :: n2 :: n3 :: n4
      :: g1 :: g2 :: g3 :: g4 :: m1 :: m2 :: m3 :: m4 :: m5 :: m6 :: rest) =>
    if data.length < headerLength then .error (.tooShort data.length)
    else if htype ≠ 1 || hlen ≠ 6 then .error (.unsupportedHardware htype hlen)
    else if (rest.drop 202).take 4 ≠ cookie then .error .wrongCookie
    else do
      let options ← readOptions (rest.drop 206)
      return {
        op, htype, hlen, hops
        xid := Octets.word32 x1 x2 x3 x4
        secs := Octets.word16 s1 s2
        flags := Octets.word16 f1 f2
        ciaddr := ⟨c1, c2, c3, c4⟩
        yiaddr := ⟨y1, y2, y3, y4⟩
        siaddr := ⟨n1, n2, n3, n4⟩
        giaddr := ⟨g1, g2, g3, g4⟩
        mac := ⟨m1, m2, m3, m4, m5, m6⟩
        sname := fieldText ((rest.drop 10).take 64)
        file := fieldText ((rest.drop 74).take 128)
        options }
  | data => .error (.tooShort data.length)

def isRequest (p : Packet) : Bool := p.op = 1

/-! The first option of a kind counts; later ones are not joined to it. -/

def messageType? (p : Packet) : Option MessageType :=
  p.options.findSome? fun o => match o with
    | .messageType t => some t
    | _ => none

def requestedAddress? (p : Packet) : Option Ipv4 :=
  p.options.findSome? fun o => match o with
    | .requestedAddress ip => some ip
    | _ => none

def vendorClass? (p : Packet) : Option String :=
  p.options.findSome? fun o => match o with
    | .vendorClass name => some name
    | _ => none

def userClass? (p : Packet) : Option String :=
  p.options.findSome? fun o => match o with
    | .userClass name => some name
    | _ => none

def clientArch? (p : Packet) : Option UInt16 :=
  p.options.findSome? fun o => match o with
    | .clientArch code => some code
    | _ => none

def clientNetwork? (p : Packet) : Option Octets :=
  p.options.findSome? fun o => match o with
    | .clientNetwork interface => some interface
    | _ => none

def machineId? (p : Packet) : Option Octets :=
  p.options.findSome? fun o => match o with
    | .machineId id => some id
    | _ => none

end Packet
end BootServer.Dhcp
