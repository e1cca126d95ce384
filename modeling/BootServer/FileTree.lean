import BootServer.Octets
import BootServer.Text.Fields

/-!
The files that the server reads, as a tree. A path is followed name by name from the root; empty
names and `.` stay where they are, so that a path which goes on behind a file, if only with a slash,
finds no directory there.
-/
namespace BootServer

inductive FileError where
  | notFound
  | isDirectory
  | notDirectory
  | nameTooLong
  | nulInName
  | invalidOffset
  deriving DecidableEq

def FileError.message : FileError → String
  | .notFound => "No such file or directory (os error 2)"
  | .isDirectory => "Is a directory (os error 21)"
  | .notDirectory => "Not a directory (os error 20)"
  | .nameTooLong => "File name too long (os error 36)"
  | .nulInName => "file name contained an unexpected NUL byte"
  | .invalidOffset => "Invalid argument (os error 22)"

/-- Files and directories by the names on the way to them. A directory that holds anything need not
be listed. -/
structure FileTree where
  files : List (List String × Octets)
  directories : List (List String) := []

namespace FileTree

inductive Entry where
  | file (content : Octets)
  | directory

def maxName : Nat := 255

def maxPath : Nat := 4095

def isDirectory (t : FileTree) (names : List String) : Bool :=
  names.isEmpty || t.directories.any (names.isPrefixOf ·) || t.files.any (names.isPrefixOf ·.1)

def entry? (t : FileTree) (names : List String) : Option Entry :=
  match t.files.lookup names with
  | some content => some (.file content)
  | none => if t.isDirectory names then some .directory else none

/-- Follow names from a place in the tree. -/
def follow (t : FileTree) (place : List String) : List String → Except FileError Entry
  | [] =>
    match t.entry? place with
    | some e => .ok e
    | none => .error .notFound
  | name :: rest =>
    match t.entry? place with
    | none => .error .notFound
    | some (.file _) => .error .notDirectory
    | some .directory =>
      if name = "" || name = "." then t.follow place rest
      else if name = ".." then t.follow place.dropLast rest
      else if name.utf8ByteSize > maxName then .error .nameTooLong
      else t.follow (place ++ [name]) rest

def read (t : FileTree) (path : String) : Except FileError Octets :=
  if path.toList.contains '\x00' then .error .nulInName
  else if path.utf8ByteSize > maxPath then .error .nameTooLong
  else
    match t.follow [] (Text.split '/' path) with
    | .ok (.file content) => .ok content
    | .ok .directory => .error .isDirectory
    | .error e => .error e

end FileTree
end BootServer
