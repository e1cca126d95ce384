import BootServer.Image.Marker

/-!
The boot loader binaries that clients fetch by name. A name never leads out of the directory: it has
ordinary names only, neither the directory itself nor the one above. Where a script is to be written
into the binaries, none is handed out without it.
-/
namespace BootServer

structure BinaryPatch where
  marker : Image.Marker
  script : Octets
  deriving DecidableEq

structure Binaries where
  directory : String
  patch : Option BinaryPatch := none

namespace Binaries

/-- What the binaries are built with where a script may be written in. -/
def placeholder : String := "#a8b7e61f1075c37a793f2f92cee89f7bba00c4a8d7842ce3d40b5889032d8881"

/-- Are these pieces of a name all ordinary? Empty pieces and, but for the first, single dots count
for nothing. -/
def isOrdinary : List String → Bool
  | [] => false
  | first :: rest => first ≠ "." && first ≠ ".." && rest.all (· ≠ "..")

def join (directory name : String) : String :=
  if directory = "" || directory.toList.getLast? = some '/' then directory ++ name
  else directory ++ "/" ++ name

/-- The path of a binary; slashes before its name are passed over. -/
def path? (b : Binaries) (name : String) : Option String :=
  let name := Text.trimStartWhile (· = '/') name
  if name ≠ "" && isOrdinary (Text.split '/' name) then some (join b.directory name) else none

def patched (b : Binaries) (data : Octets) : Except Image.ImageError Octets :=
  match b.patch with
  | some p => p.marker.patch p.script data
  | none => .ok data

/-- The binary of that name; a name that is refused is no binary's. -/
def read (b : Binaries) (files : FileTree) (name : String) :
    Except Image.ImageError (Option Octets) :=
  match b.path? name with
  | none => .ok none
  | some path =>
    match files.read path with
    | .ok data => (b.patched data).map some
    | .error .notFound => .ok none
    | .error e => .error (.file e)

end Binaries
end BootServer
