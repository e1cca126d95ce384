import BootServer.Image.Scanner
import BootServer.Image.Source

/-!
Images with a patch laid over their marker. The marker is looked for once, in windows of limited
size, and its offset is remembered; a search that fails is not. A range is patched chunk by chunk
while it is read, and it is not read at all unless the patch fits and the marker is there.
-/
namespace BootServer.Image

structure PatchedImage (σ : Type) where
  source : Source σ
  marker : Marker

/-- The offset of the marker, once it is known, and the state behind the source. -/
structure Memory (σ : Type) where
  offset : Option Nat := none
  behind : σ

/-- How a search goes on after a body. -/
inductive Search where
  | found (offset : Nat)
  | pending (scanner : Scanner) (received : Nat)

/-- Feed a body up to the marker. -/
def Search.feed (scanner : Scanner) (received : Nat) : Body → Except ImageError Search
  | [] => .ok (.pending scanner received)
  | .error e :: _ => .error e
  | .ok chunk :: rest =>
    match scanner.feed chunk with
    | (some offset, _) => .ok (.found offset)
    | (none, scanner) => feed scanner (received + chunk.length) rest

/-- Lay a patch over a body that begins at `start`. -/
def patchBody (patch : Octets) (patchStart : Nat) (start : Nat) : Body → Body
  | [] => []
  | .error e :: rest => .error e :: patchBody patch patchStart start rest
  | .ok chunk :: rest =>
    .ok (overlay chunk start patch patchStart)
      :: patchBody patch patchStart (start + chunk.length) rest

namespace PatchedImage

def scanWindow : Nat := 4 * 1024 * 1024

/-- Look for the marker from `pos` on. The next window begins where the answer really ended. -/
def scanFrom {σ : Type} (source : Source σ) (total pos : Nat) (scanner : Scanner) : Access σ Nat :=
  if _h : pos < total then do
    let body ← source.read pos (min scanWindow (total - pos))
    match Search.feed scanner 0 body with
    | .error e => throw e
    | .ok (.found offset) => return offset
    | .ok (.pending scanner received) =>
      if _hr : received = 0 then throw (.source (.noData pos))
      else scanFrom source total (pos + received) scanner
  else throw .markerNotFound
termination_by total - pos
decreasing_by omega

def scan {σ : Type} (image : PatchedImage σ) : Access σ Nat := do
  let total ← image.source.length
  scanFrom image.source total 0 { marker := image.marker }

/-- An action on the source leaves what is remembered alone. -/
def onSource {σ α : Type} (action : Access σ α) : Access (Memory σ) α := fun memory =>
  let (result, behind) := action memory.behind
  (result, { memory with behind })

def length {σ : Type} (image : PatchedImage σ) : Access (Memory σ) Nat :=
  onSource image.source.length

def markerOffset {σ : Type} (image : PatchedImage σ) : Access (Memory σ) Nat := do
  match (← get).offset with
  | some offset => return offset
  | none =>
    let offset ← onSource image.scan
    modify ({ · with offset := some offset })
    return offset

/-- Read a range with the payload written over the marker. -/
def stream {σ : Type} (image : PatchedImage σ) (payload : Octets) (start length : Nat) :
    Access (Memory σ) Body := do
  let patch ← liftExcept (image.marker.pad payload)
  let offset ← image.markerOffset
  let body ← onSource (image.source.read start length)
  return patchBody patch offset start body
where
  liftExcept {α : Type} : Except ImageError α → Access (Memory σ) α
    | .ok a => pure a
    | .error e => throw e

end PatchedImage
end BootServer.Image
