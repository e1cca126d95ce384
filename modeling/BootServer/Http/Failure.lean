import BootServer.Http.Message
import BootServer.Script.Composer
import BootServer.Store.Basic

/-!
Why a request is not answered with what it asks for. A fault of the request has a status of its own;
whatever goes wrong here is an internal error. The body says what it was, except that a range
outside of what there is is told by a header.
-/
namespace BootServer.Http

inductive Failure where
  /-- A part of the path does not decode to text. -/
  | undecodable (part : String)
  | unknown (what : String)
  | noRecord (client : String)
  | notAllowed (mac : HardwareAddress)
  | hardwareAddress (given : String)
  | rangeNotText
  | severalRanges
  | malformedRange (value : String)
  | outsideRange (total : Nat)
  | lookup (cause : LookupError)
  | script (cause : Script.Error)
  | image (cause : Image.ImageError)
  deriving DecidableEq

namespace Failure

def status : Failure → Status
  | .unknown _ | .noRecord _ | .notAllowed _ => .notFound
  | .undecodable _ | .hardwareAddress _ | .rangeNotText | .severalRanges | .malformedRange _ =>
    .badRequest
  | .outsideRange _ => .rangeNotSatisfiable
  | .lookup _ | .script _ | .image _ => .internalError

def message : Failure → String
  | .undecodable part => "Invalid URL: Invalid UTF-8 in `" ++ part ++ "`"
  | .unknown what => "Not found: " ++ what
  | .noRecord client => "Not found: no boot record for " ++ client
  | .notAllowed mac => "Not found: netboot not allowed for " ++ mac.upperText
  | .hardwareAddress given => "Bad request: invalid hardware address '" ++ given ++ "'"
  | .rangeNotText => "Bad request: range header is not ascii"
  | .severalRanges => "Bad request: multiple ranges are not supported"
  | .malformedRange value => "Bad request: invalid range '" ++ value ++ "'"
  | .outsideRange total =>
    "Range not satisfiable for " ++ Text.Decimal.text total ++ " byte resource"
  | .lookup cause => "Lookup error: " ++ cause.message
  | .script cause => "Script error: " ++ cause.message
  | .image cause => "Patch error: " ++ cause.message

def response (f : Failure) : Response :=
  match f with
  | .outsideRange total =>
    { status := f.status
      headers := [.of "accept-ranges" "bytes",
        .of "content-range" ("bytes */" ++ Text.Decimal.text total), Response.lengthHeader 0] }
  | _ => .text f.status f.message

end Failure
end BootServer.Http
