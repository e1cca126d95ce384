import BootServer.Binaries
import BootServer.Net.Receive
import BootServer.Tftp.Transfer

/-!
The TFTP server. The listening port takes requests and answers those that it refuses; every read
request gets a transfer of its own, with a port of its own, that goes on independently. Time is a
number of milliseconds. The deadline of a transfer is set whenever it sends a packet.
-/
namespace BootServer.Tftp

structure Settings where
  binaries : Binaries
  files : FileTree
  /-- Milliseconds until a packet is sent again. -/
  timeout : Nat
  /-- The greatest block size granted. -/
  maxBlock : Nat

/-- A longer request is cut to this many octets. -/
def maxRequest : Nat := 1500

/-- What a request leads to. -/
inductive Answer where
  /-- An error from the listening port. -/
  | refused (packet : Packet)
  /-- An error from a port of its own. -/
  | unavailable (packet : Packet)
  | transfer (t : Transfer)

namespace Settings

def answerRead (s : Settings) (r : ReadRequest) : Answer :=
  match s.binaries.read s.files r.file with
  | .ok (some content) =>
    .transfer { content, terms := r.negotiate content.length s.maxBlock s.timeout }
  | .ok none => .unavailable (.error ErrorCode.fileNotFound "File not found")
  | .error _ => .unavailable (.error ErrorCode.undefined "File unavailable")

/-- Answer a datagram that reached the listening port. -/
def answer (s : Settings) (data : Octets) : Answer :=
  match Request.parse (data.take maxRequest) with
  | .ok (.read r) => s.answerRead r
  | .ok (.write _) => .refused (.error ErrorCode.accessViolation "Write not supported")
  | .error e => .refused (.error ErrorCode.illegalOperation e.message)

/-- Answer the datagrams that reach the listening port, each for itself. -/
def serve (s : Settings) (received : List (Except ReceiveError Octets)) :
    List Answer × Option ReceiveError :=
  listen s.answer received

end Settings

/-- A transfer on its port. -/
structure Session where
  transfer : Transfer
  state : State
  deadline : Nat

namespace Session

/-- Let an event happen at a time. -/
def step (s : Session) (now : Nat) (e : Event) : Session × Option Packet :=
  let (state, packet) := s.transfer.step s.state e
  let deadline := if packet.isSome then now + s.transfer.terms.timeout else s.deadline
  ({ s with state, deadline }, packet)

def isLive (s : Session) : Bool :=
  match s.state with
  | .waiting _ _ => true
  | .ended _ => false

def isDue (s : Session) (now : Nat) : Bool := s.isLive && s.deadline ≤ now

end Session

inductive Port where
  | listening
  | transfer (index : Nat)
  deriving DecidableEq

/-- The ports that transfers were given, in order; one that refused its file has no session. -/
structure Server where
  settings : Settings
  now : Nat := 0
  sessions : List (Option Session) := []

namespace Server

def receive (s : Server) (data : Octets) : Server × List (Port × Packet) :=
  match s.settings.answer data with
  | .refused packet => (s, [(.listening, packet)])
  | .unavailable packet =>
    ({ s with sessions := s.sessions ++ [none] }, [(.transfer s.sessions.length, packet)])
  | .transfer t =>
    let (state, packet) := t.start
    let session := { transfer := t, state, deadline := s.now + t.terms.timeout }
    ({ s with sessions := s.sessions ++ [some session] },
      packet.toList.map (.transfer s.sessions.length, ·))

/-- Let an event happen to those sessions that `affected` picks, in the order of their ports. -/
def happen (s : Server) (affected : Nat → Session → Bool) (e : Event) :
    Server × List (Port × Packet) :=
  let stepped := s.sessions.mapIdx fun index session =>
    match session with
    | some session =>
      if affected index session then
        let (session, packet) := session.step s.now e
        (some session, packet.toList.map (Port.transfer index, ·))
      else (some session, [])
    | none => (none, [])
  ({ s with sessions := stepped.map (·.1) }, stepped.flatMap (·.2))

/-- A datagram reaches the port of a transfer. -/
def reply (s : Server) (index : Nat) (data : Octets) : Server × List (Port × Packet) :=
  s.happen (fun i _ => i = index) (.datagram data)

/-- Time goes on; every transfer whose deadline has passed expires once. -/
def elapse (s : Server) (ms : Nat) : Server × List (Port × Packet) :=
  let s := { s with now := s.now + ms }
  s.happen (fun _ session => session.isDue s.now) .expiry

end Server
end BootServer.Tftp
