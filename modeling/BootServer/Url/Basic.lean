import BootServer.Text.Decimal
import BootServer.Url.Host
import BootServer.Url.Path

/-!
URLs in their normal form: the scheme in lower case, the default port of a special scheme left out,
dot segments resolved, and every part percent-encoded as far as its place requires. A URL with a
host, even an empty one, is written with `//` after the scheme. Without a host, a path that begins
with two slashes is kept apart from the scheme by `/.`, which stays when the path is replaced.
-/
namespace BootServer

structure Url where
  scheme : String
  username : String
  password : String
  host : Option Url.Host
  port : Option UInt16
  /-- Whether `/.` keeps the path apart from the scheme. -/
  apart : Bool
  path : Url.Path
  query : Option String
  fragment : Option String
  deriving DecidableEq

namespace Url

/-- Schemes with a default port, and `file`; a backslash in them is a slash. -/
def isSpecial (scheme : String) : Bool := scheme ∈ ["http", "https", "ws", "wss", "ftp", "file"]

def defaultPort (scheme : String) : Option UInt16 :=
  match scheme with
  | "http" | "ws" => some 80
  | "https" | "wss" => some 443
  | "ftp" => some 21
  | _ => none

def userinfoText (u : Url) : String :=
  if u.username = "" && u.password = "" then ""
  else u.username ++ (if u.password = "" then "" else ":" ++ u.password) ++ "@"

def portText (u : Url) : String :=
  match u.port with
  | some port => ":" ++ Text.Decimal.text port.toNat
  | none => ""

def authorityText (u : Url) : String :=
  match u.host with
  | some host => "//" ++ u.userinfoText ++ host.text ++ u.portText
  | none => ""

def pathText (u : Url) : String := u.path.toText

def hierarchyText (u : Url) : String :=
  u.authorityText ++ (if u.apart then "/." else "") ++ u.pathText

def text (u : Url) : String :=
  u.scheme ++ ":" ++ u.hierarchyText
    ++ (u.query.elim "" ("?" ++ ·)) ++ (u.fragment.elim "" ("#" ++ ·))

/-- The host that is an IPv4 address. -/
def ipv4Host? (u : Url) : Option Ipv4 :=
  match u.host with
  | some (.ipv4 ip) => some ip
  | _ => none

/-- The path with the given segments. An opaque path stays opaque, so its leading slash is written
in encoded form. -/
def pathOf (u : Url) (list : List String) : Path :=
  match u.path with
  | .text _ =>
    .text ("%2F" ++ String.ofList
      (Text.Percent.encode (fun _ => false) ("/".intercalate list).toList))
  | .segments _ =>
    let pieces := list.map String.toList
    if u.scheme = "file" then .ofFile (Path.resolve true [] pieces) else .ofPieces pieces

/-- Replace the path by the given segments. -/
def withSegments (u : Url) (list : List String) : Url := { u with path := u.pathOf list }

end Url
end BootServer
