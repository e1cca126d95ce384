import BootServer.Tftp.Terms

/-!
One transfer. The server sends a packet and waits for the acknowledgement of its number; until that
comes it sends the packet again whenever the timer expires, a limited number of times. Anything else
that arrives changes nothing, but for an error of the client, which ends the transfer. The options
granted go first under the number zero, then the file in blocks counted from one, and a block that
is not full is the last.
-/
namespace BootServer.Tftp

structure Transfer where
  content : Octets
  terms : Terms

/-- The packet that waits for its acknowledgement. -/
inductive Position where
  | options
  | block (number : UInt16) (offset : Nat)
  deriving DecidableEq

inductive Outcome where
  | complete
  | clientError (code : UInt16) (message : String)
  | unanswered (number : UInt16)
  deriving DecidableEq

inductive State where
  /-- The packet was sent so many times. -/
  | waiting (position : Position) (sent : Nat)
  | ended (outcome : Outcome)
  deriving DecidableEq

inductive Event where
  | datagram (data : Octets)
  | expiry

/-- How often a packet is sent at most. -/
def maxSends : Nat := 6

/-- A longer datagram is cut to this many octets. -/
def maxReply : Nat := 516

namespace Position

/-- The number that acknowledges the packet. -/
def number : Position → UInt16
  | .options => 0
  | .block number _ => number

end Position

namespace Transfer

def chunk (t : Transfer) (offset : Nat) : Octets := (t.content.drop offset).take t.terms.blockSize

def packet (t : Transfer) : Position → Packet
  | .options => .optionAck t.terms.granted
  | .block number offset => .data number (t.chunk offset)

def first (t : Transfer) : Position := if t.terms.granted.isEmpty then .block 1 0 else .options

/-- The position after an acknowledgement; none after the last block. -/
def next? (t : Transfer) : Position → Option Position
  | .options => some (.block 1 0)
  | .block number offset =>
    if (t.chunk offset).length < t.terms.blockSize then none
    else some (.block (number + 1) (offset + t.terms.blockSize))

/-- Send the packet of a position for the first time. -/
def enter (t : Transfer) (position : Position) : State × Option Packet :=
  (.waiting position 1, some (t.packet position))

def start (t : Transfer) : State × Option Packet := t.enter t.first

def acknowledged (t : Transfer) (position : Position) : State × Option Packet :=
  match t.next? position with
  | some position => t.enter position
  | none => (.ended .complete, none)

/-- What an event leads to, and the packet that is sent. -/
def step (t : Transfer) : State → Event → State × Option Packet
  | .ended outcome, _ => (.ended outcome, none)
  | .waiting position sent, .expiry =>
    if sent < maxSends then (.waiting position (sent + 1), some (t.packet position))
    else (.ended (.unanswered position.number), none)
  | .waiting position sent, .datagram data =>
    match Reply.parse (data.take maxReply) with
    | .ack number =>
      if number = position.number then t.acknowledged position
      else (.waiting position sent, none)
    | .error code message => (.ended (.clientError code message), none)
    | .other => (.waiting position sent, none)

/-- All packets that a sequence of events makes the server send after a state. -/
def run (t : Transfer) (s : State) : List Event → State × List Packet
  | [] => (s, [])
  | e :: es =>
    let (s, packet) := t.step s e
    let (s, packets) := t.run s es
    (s, packet.toList ++ packets)

end Transfer
end BootServer.Tftp
