import BootServer.Image.Error
import BootServer.Url.Parser

/-!
Locations of images: a file, by a `file` URL or simply by its path, or a web address.
-/
namespace BootServer.Image

inductive Location where
  | file (path : Octets)
  | web (url : Url)

namespace Location

def separator : UInt8 := 0x2F

/-- Does the path end in a drive letter? -/
def endsInDrive (path : Octets) : Bool :=
  match path.reverse with
  | mark :: letter :: _ :: _ =>
    (mark = 0x3A || mark = 0x7C) && (Char.ofNat letter.toNat).isAlpha
  | _ => false

/-- The path that segments of a URL name. A drive letter is a directory. -/
def pathOf (segments : List String) : Octets :=
  let path := segments.flatMap fun s => separator :: Text.Percent.decode (Octets.ofText s)
  if endsInDrive path then path ++ [separator] else path

/-- The file that a URL names: it has a path of segments and no host but this one. -/
def file? (url : Url) : Option Location :=
  match url.path with
  | .text _ => none
  | .segments list =>
    match url.host with
    | none | some (.domain "localhost") | some (.domain "") => some (.file (pathOf list))
    | some _ => none

def parse (location : String) : Except SourceError Location :=
  match Url.parse location with
  | .error _ => .ok (.file (Octets.ofText location))
  | .ok url =>
    if url.scheme = "file" then
      match file? url with
      | some l => .ok l
      | none => .error (.malformedFileUrl location)
    else if url.scheme = "http" || url.scheme = "https" then .ok (.web url)
    else .error (.unsupportedScheme url.scheme)

end Location
end BootServer.Image
