/-!
Failures of a listener to receive. A transient one, such as a reset that an earlier reply brought
back, leaves the listener running; any other stops it.
-/
namespace BootServer

inductive ReceiveError where
  | connectionReset
  | connectionRefused
  | wouldBlock
  | interrupted
  | timedOut
  | other
  deriving DecidableEq, Repr

namespace ReceiveError

def isTransient : ReceiveError → Bool
  | .other => false
  | _ => true

end ReceiveError

/-- What a listener goes on with: a datagram, nothing after a transient failure, or its end. -/
def checkReceive {α : Type} : Except ReceiveError α → Except ReceiveError (Option α)
  | .ok received => .ok (some received)
  | .error e => if e.isTransient then .ok none else .error e

/-- What a listener makes of the datagrams that it receives, and the failure that stops it. Without
one it goes on until it is told to stop. -/
def listen {α β : Type} (handle : α → β) :
    List (Except ReceiveError α) → List β × Option ReceiveError
  | [] => ([], none)
  | received :: more =>
    match checkReceive received with
    | .error e => ([], some e)
    | .ok none => listen handle more
    | .ok (some data) =>
      let (made, failure) := listen handle more
      (handle data :: made, failure)

end BootServer
