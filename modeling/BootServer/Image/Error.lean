import BootServer.FileTree
import BootServer.Http.Status

/-!
What can go wrong when an image is read or patched.
-/
namespace BootServer.Image

/-- Why an image cannot be had from where it should be. -/
inductive SourceError where
  | noData (position : Nat)
  | malformedFileUrl (location : String)
  | unsupportedScheme (name : String)
  | lengthRefused (url : String) (status : Http.Status)
  | lengthMissing (url : String)
  | rangeRefused (url : String) (start length : Nat) (status : Http.Status)
  deriving DecidableEq

def SourceError.message : SourceError → String
  | .noData position => "no data returned for range starting at " ++ Text.Decimal.text position
  | .malformedFileUrl location => "invalid file url '" ++ location ++ "'"
  | .unsupportedScheme name => "unsupported image scheme '" ++ name ++ "'"
  | .lengthRefused url status => "HEAD " ++ url ++ " returned " ++ status.text
  | .lengthMissing url => "HEAD " ++ url ++ " has no content length"
  | .rangeRefused url start length status =>
    "GET " ++ url ++ " for bytes " ++ Text.Decimal.text start ++ "+" ++ Text.Decimal.text length
      ++ " returned " ++ status.text

inductive ImageError where
  | markerNotFound
  | payloadTooLong (payload marker : Nat)
  | source (cause : SourceError)
  | file (cause : FileError)
  /-- No connection could be made, or it broke. -/
  | transport
  deriving DecidableEq

def ImageError.message : ImageError → String
  | .markerNotFound => "marker not found in source image: not patchable"
  | .payloadTooLong payload marker =>
    "patch payload is " ++ Text.Decimal.text payload ++ " bytes, longer than the "
      ++ Text.Decimal.text marker ++ " byte marker"
  | .source cause => "source image returned an unexpected response: " ++ cause.message
  | .file cause => "IO error: " ++ cause.message
  | .transport => "HTTP error"

end BootServer.Image
