import BootServer.Tftp.Request

/-!
The terms of a transfer. A client may ask for a block size, a retransmission timeout and the size of
the file; whatever else it asks for, or asks for in a form that cannot be granted, is passed over.
-/
namespace BootServer.Tftp

structure Terms where
  blockSize : Nat
  /-- Milliseconds until a packet is sent again. -/
  timeout : Nat
  /-- The options granted, which are told to the client if there are any. -/
  granted : List (String × String)
  deriving DecidableEq

def defaultBlockSize : Nat := 512

def minBlockSize : Nat := 8

def maxBlockSize : Nat := 65464

/-- The size granted to a client that asks for one. -/
def grantedBlockSize (requested limit : Nat) : Nat :=
  max (min requested (min limit maxBlockSize)) minBlockSize

def blockSize? (o : Options) (limit : Nat) : Option Nat := do
  let requested ← Text.Decimal.read? Text.Decimal.max64 (← o.get? "blksize")
  return grantedBlockSize requested limit

/-- Seconds from 1 to 255. -/
def timeoutSeconds? (o : Options) : Option Nat := do
  let seconds ← Text.Decimal.read? Text.Decimal.max64 (← o.get? "timeout")
  if 1 ≤ seconds && seconds ≤ 255 then some seconds else none

def transferSize? (o : Options) (fileSize : Nat) : Option Nat :=
  (o.get? "tsize").map fun _ => fileSize

def granted (name : String) (value : Option Nat) : List (String × String) :=
  (value.map fun n => (name, Text.Decimal.text n)).toList

/-- Agree on the terms for a file; `limit` is the greatest block size granted. -/
def ReadRequest.negotiate (r : ReadRequest) (fileSize limit timeout : Nat) : Terms :=
  let blockSize := blockSize? r.options limit
  let seconds := timeoutSeconds? r.options
  { blockSize := blockSize.getD defaultBlockSize
    timeout := seconds.elim timeout (· * 1000)
    granted := granted "blksize" blockSize ++ granted "timeout" seconds
      ++ granted "tsize" (transferSize? r.options fileSize) }

end BootServer.Tftp
