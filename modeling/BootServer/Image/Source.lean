import BootServer.Image.Error

/-!
Where the octets of an image come from. A source tells its length and reads ranges; whatever lies
behind it may change with every question and may fail at any point, even in the middle of a range.
-/
namespace BootServer.Image

/-- An action on whatever lies behind a source; what it changed stays changed when it fails. -/
abbrev Access (σ α : Type) := ExceptT ImageError (StateM σ) α

/-- The chunks of a range, in order, and the failures among them. -/
abbrev Body := List (Except ImageError Octets)

/-- All octets of a body, unless there is a failure in it. -/
def Body.collect (body : Body) : Except ImageError Octets := (body.mapM id).map List.flatten

structure Source (σ : Type) where
  length : Access σ Nat
  read (start length : Nat) : Access σ Body

namespace Source

/-- An image in memory. A range yields no more than `limit` octets of what there is, in chunks of
the given size; the length told may be another than the real one. -/
def ofOctets (data : Octets) (chunk : Nat) (limit told : Option Nat := none) : Source Unit :=
  let all := data.toArray
  { length := pure (told.getD all.size)
    read := fun start length =>
      let range := all.extract start (start + limit.elim length (min length))
      pure ((Octets.pieces chunk range.toList).map .ok) }

def fileChunk : Nat := 65536

/-- The greatest offset that a file can have. -/
def maxFileOffset : Nat := 0x7FFFFFFFFFFFFFFF

/-- An image in a file, which is opened anew for every range. -/
def ofFile (files : FileTree) (path : String) : Source Unit where
  length := do return (← content).length
  read start length := do
    let data ← content
    if start > maxFileOffset then throw (.file .invalidOffset)
    return (Octets.pieces fileChunk ((data.drop start).take length)).map .ok
where
  content : Access Unit Octets :=
    match files.read path with
    | .ok data => pure data
    | .error e => throw (.file e)

end Source
end BootServer.Image
