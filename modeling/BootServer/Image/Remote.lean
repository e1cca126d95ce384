import BootServer.Http.Header
import BootServer.Image.Source
import BootServer.Text.Decimal

/-!
Images on an HTTP server. The length is asked for once and remembered when the server told it. A
range is asked for by a range header; a server may answer with the whole image to a range from its
beginning, and of whatever it sends no more than was asked for is taken.
-/
namespace BootServer.Image

structure RemoteRequest where
  /-- Asks for the headers alone. -/
  headOnly : Bool
  /-- First and last octet asked for. -/
  range : Option (Nat × Nat) := none
  deriving DecidableEq

/-- An answer; a body may break off at any point. -/
structure RemoteResponse where
  status : Http.Status
  headers : Http.Headers
  body : List (Option Octets)

/-- A server, whose answers may depend on what it was asked before. No answer means that there is no
connection. -/
abbrev Remote (τ : Type) := RemoteRequest → τ → Option RemoteResponse × τ

namespace Remote

/-- The length of the image, once it is known, and the state of the server. -/
structure Memory (τ : Type) where
  length : Option Nat := none
  server : τ

def send {τ : Type} (remote : Remote τ) (request : RemoteRequest) :
    Access (Memory τ) RemoteResponse := do
  let memory ← get
  let (response, server) := remote request memory.server
  set { memory with server }
  match response with
  | some response => return response
  | none => throw .transport

def contentLength? (headers : Http.Headers) : Option Nat := do
  Text.Decimal.read? Text.Decimal.max64 (← (← Http.Headers.first? headers "content-length").text?)

def fetchLength {τ : Type} (remote : Remote τ) (url : String) : Access (Memory τ) Nat := do
  let response ← remote.send { headOnly := true }
  if !response.status.isSuccess then throw (.source (.lengthRefused url response.status))
  match contentLength? response.headers with
  | some length => return length
  | none => throw (.source (.lengthMissing url))

def length {τ : Type} (remote : Remote τ) (url : String) : Access (Memory τ) Nat := do
  match (← get).length with
  | some length => return length
  | none =>
    let length ← remote.fetchLength url
    modify ({ · with length := some length })
    return length

/-- The first octets of a body. Once they are complete the next chunk ends it; a failure that comes
before any chunk is still seen. -/
def cut (remaining : Nat) : List (Option Octets) → Body
  | [] => []
  | none :: rest => .error .transport :: cut remaining rest
  | some chunk :: rest =>
    if remaining = 0 then []
    else .ok (chunk.take remaining) :: cut (remaining - (chunk.take remaining).length) rest

/-- Does the status say that the body begins at `start`? -/
def answers (status : Http.Status) (start : Nat) : Bool :=
  status = .partialContent || (status = .ok && start = 0)

def read {τ : Type} (remote : Remote τ) (url : String) (start length : Nat) :
    Access (Memory τ) Body := do
  if length = 0 then return []
  let response ← remote.send { headOnly := false, range := some (start, start + length - 1) }
  if !answers response.status start then
    throw (.source (.rangeRefused url start length response.status))
  return cut length response.body

def source {τ : Type} (remote : Remote τ) (url : String) : Source (Memory τ) where
  length := remote.length url
  read := remote.read url

end Remote
end BootServer.Image
