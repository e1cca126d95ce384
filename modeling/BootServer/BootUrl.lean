import BootServer.Net.HardwareAddress
import BootServer.Url.Parser

/-!
URLs handed to clients. A script location may carry the client's hardware address as the segment
before its last one, so that the address comes back with the request for the script.
-/
namespace BootServer.BootUrl

/-- The ports a URL leaves out here, those of TFTP among them. -/
def defaultPort (scheme : String) : Option UInt16 :=
  match scheme with
  | "http" => some 80
  | "https" => some 443
  | "tftp" => some 69
  | _ => none

def authority (scheme host : String) (port : UInt16) : String :=
  if defaultPort scheme = some port then host
  else host ++ ":" ++ Text.Decimal.text port.toNat

def build (scheme host : String) (port : UInt16) (path : String) : Except Url.Error Url :=
  Url.parse
    (scheme ++ "://" ++ authority scheme host port ++ "/" ++ Text.trimStartWhile (· = '/') path)

/-- The non-empty segments of a path. -/
def segments (u : Url) : List String := (Text.split '/' u.pathText).filter (· ≠ "")

/-- Put the hardware address before the last segment, unless it stands there already. -/
def inject (u : Url) (mac : HardwareAddress) : Url :=
  let list := segments u
  let directories := list.dropLast
  if directories.getLast? = some mac.text then u
  else u.withSegments (directories ++ [mac.text] ++ list.getLast?.toList)

end BootUrl

/-- Where clients find the boot script. -/
structure ScriptUrl where
  base : Url
  perClient : Bool
  deriving DecidableEq

namespace ScriptUrl

def forClient (s : ScriptUrl) (mac : HardwareAddress) : Url :=
  if s.perClient then BootUrl.inject s.base mac else s.base

end ScriptUrl
end BootServer
