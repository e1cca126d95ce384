import BootServer.Script.Template
import BootServer.Url.Parser

/-!
The boot script for a client. A record's own script comes first, then a record's script location, to
which a short script chains; otherwise a script is rendered, if the settings that it needs are
there.
-/
namespace BootServer.Script

inductive Error where
  | installerUnset
  | installerMalformed (url : String) (cause : Url.Error)
  | installerScheme (url : String)
  | controlPlaneUnset
  deriving DecidableEq

def Error.cause : Error → String
  | .installerUnset => "installer environment URL is not set"
  | .installerMalformed url cause =>
    "invalid installer environment URL '" ++ url ++ "': " ++ cause.message
  | .installerScheme url => "installer environment URL must be http or https: '" ++ url ++ "'"
  | .controlPlaneUnset => "control-plane address is not set"

def Error.message (e : Error) : String := "script configuration error: " ++ e.cause

/-- A script that goes on to another one. -/
def chain (url : String) : String := "#!ipxe\n\nchain --autofree " ++ url ++ "\n"

/-- The values of a context that has all a script needs. -/
def values (c : Context) : Except Error Template.Values :=
  match c.installerUrl with
  | none => .error .installerUnset
  | some url =>
    match Url.parse url with
    | .error cause => .error (.installerMalformed url cause)
    | .ok parsed =>
      if parsed.scheme ≠ "http" && parsed.scheme ≠ "https" then .error (.installerScheme url)
      else
        match nonEmpty c.controlPlane with
        | none => .error .controlPlaneUnset
        | some controlPlane =>
          .ok { baseUrl := Text.trimEndWhile (· = '/') url, controlPlane, context := c }

def render (c : Context) : Except Error String := (values c).map Template.render

/-- The script that a record brings along. -/
def ownScript? (r : Record) : Option String :=
  (nonEmpty r.boot.script).or ((nonEmpty r.boot.scriptUrl).map chain)

def compose (s : Settings) (mac : Option HardwareAddress) (record : Option Record) :
    Except Error String :=
  match record.bind ownScript? with
  | some script => .ok script
  | none => render (s.context mac record)

end BootServer.Script
