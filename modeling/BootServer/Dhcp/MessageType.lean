/-!
DHCP message types. A server answers two of them, and never one that a server sends.
-/
namespace BootServer.Dhcp

inductive MessageType where
  | discover
  | offer
  | request
  | decline
  | ack
  | nak
  | release
  | inform
  deriving DecidableEq, Repr

namespace MessageType

def code : MessageType → UInt8
  | .discover => 1
  | .offer => 2
  | .request => 3
  | .decline => 4
  | .ack => 5
  | .nak => 6
  | .release => 7
  | .inform => 8

def all : List MessageType := [.discover, .offer, .request, .decline, .ack, .nak, .release, .inform]

def ofCode? (code : UInt8) : Option MessageType := all.find? (·.code = code)

@[simp] theorem ofCode?_code (t : MessageType) : ofCode? t.code = some t := by
  cases t <;> decide

def name : MessageType → String
  | .discover => "DISCOVER"
  | .offer => "OFFER"
  | .request => "REQUEST"
  | .decline => "DECLINE"
  | .ack => "ACK"
  | .nak => "NAK"
  | .release => "RELEASE"
  | .inform => "INFORM"

/-- The type of the reply, if there is one. -/
def reply? : MessageType → Option MessageType
  | .discover => some .offer
  | .request => some .ack
  | _ => none

end MessageType
end BootServer.Dhcp
