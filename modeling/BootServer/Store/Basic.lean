import BootServer.Net.Address
import BootServer.Record.Basic
import BootServer.Text.Duration

/-!
Record stores. A store answers by hardware address and by the address a record allocates; an answer
takes some time and may be a failure. Whoever asks waits for a limited time, after which the answer
counts as a failure whatever it is.
-/
namespace BootServer

inductive LookupError where
  | unreadable (path : String)
  | undecodable (path : String)
  | invalidKey (key : String)
  | timeout (ms : Nat)
  deriving DecidableEq, Repr

def LookupError.message : LookupError → String
  | .unreadable path => "failed to read " ++ path
  | .undecodable path => "failed to parse " ++ path
  | .invalidKey key => "invalid hardware address key '" ++ key ++ "'"
  | .timeout ms => "lookup timed out after " ++ Text.Duration.text ms

/-- Records under their hardware addresses. -/
abbrev Entries := List (HardwareAddress × Record)

namespace Entries

def byHardware (entries : Entries) (mac : HardwareAddress) : Option Record :=
  (entries.find? (·.1 = mac)).map (·.2)

/-- The first entry whose record allocates the address, always one of the fourth version. -/
def byAddress (entries : Entries) : IpAddress → Option (HardwareAddress × Record)
  | .v4 ip => entries.find? (·.2.lease.address = some ip)
  | .v6 _ => none

end Entries

/-- What a store says, and after how many milliseconds. -/
structure Answer (α : Type) where
  result : Except LookupError α
  delay : Nat := 0

/-- The answer as one sees it who waits for `timeout` milliseconds. -/
def Answer.within {α : Type} (timeout : Nat) (a : Answer α) : Except LookupError α :=
  if a.delay > timeout then .error (.timeout timeout) else a.result

structure Store where
  name : String
  byHardware : HardwareAddress → Answer (Option Record)
  byAddress : IpAddress → Answer (Option (HardwareAddress × Record))

/-- A question put to a store. -/
inductive Question where
  | hardware (mac : HardwareAddress)
  | address (ip : IpAddress)
  deriving DecidableEq

/-- A result together with the questions that led to it, in order. -/
structure Consulted (α : Type) where
  asked : List Question := []
  result : α

namespace Store

/-- The store over entries that are at hand. -/
def ofEntries (name : String) (entries : Entries) : Store where
  name := name
  byHardware mac := { result := .ok (entries.byHardware mac) }
  byAddress ip := { result := .ok (entries.byAddress ip) }

/-- The store that knows no client and allows every one to boot. -/
def permissive : Store where
  name := "noop"
  byHardware _ := { result := .ok (some Record.permissive) }
  byAddress _ := { result := .ok none }

/-- The same store, but every answer takes longer and may fail. -/
def delayed (s : Store) (ms : Nat) (failure : Option LookupError) : Store where
  name := s.name
  byHardware mac := slow (s.byHardware mac)
  byAddress ip := slow (s.byAddress ip)
where
  slow {α : Type} (a : Answer α) : Answer α :=
    { result := match failure with
        | some e => .error e
        | none => a.result
      delay := a.delay + ms }

end Store
end BootServer
