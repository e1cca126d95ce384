import BootServer.Config.Resolve
import BootServer.Image.Location
import BootServer.Store.File

/-!
The command line. It resolves options and environment, opens the store, and prints what each
listener is set up with. No address of this host is detected, so one that is needed has to be
given.
-/
namespace BootServer.Config

/-- A listener's line: what it is, and where it listens unless it is off. -/
def listenerLine (name : String) (address : Option String) : String :=
  name ++ ": " ++ address.getD "off"

def storeLine : StoreChoice → String
  | .file path => "store: file " ++ path
  | .permissive => "store: noop"

/-- What is set up, a line each. -/
def summary (c : Config) : List String := [
  "mode: " ++ c.mode.name,
  storeLine c.store,
  listenerLine "dhcp" (c.dhcp.map (·.address.text)),
  listenerLine "tftp" (c.tftp.map (·.address.text)),
  listenerLine "syslog" (c.syslog.map Ipv4Endpoint.text),
  listenerLine "http" (some c.http.address.text)]

/-- The image has to be at a location that can be read from. -/
def checkImage (c : Config) : Except Image.SourceError Unit := do
  if let some image := c.http.image then
    let _ ← Image.Location.parse image.location

/-- The variables of the environment that stand in for flags. -/
def readEnvironment : IO (List (String × String)) := do
  let found ← Options.flags.mapM fun f => do return (f.variableName, ← IO.getEnv f.variableName)
  return found.filterMap fun (name, value) => value.map (name, ·)

def openStore (c : Config) : IO (Except LookupError Store) := do
  match c.store with
  | .permissive => return .ok .permissive
  | .file path =>
    let content ← (IO.FS.readBinFile path).toBaseIO
    return FileStore.openStore { path, content := content.toOption.map (·.toList) }

/-- Help and version go to the output, whatever else ends the reading of options to the errors. -/
def tellUsage (e : UsageError) : IO UInt32 := do
  if e = .help ∨ e = .version then
    IO.println e.message
    return 0
  IO.eprintln ("error: " ++ e.message)
  return 2

def tellFailure (message : String) : IO UInt32 := do
  IO.eprintln ("error: " ++ message)
  return 1

def start (o : Options) : IO UInt32 := do
  match resolve o none with
  | .error e => tellFailure ("Invalid configuration: " ++ e.message)
  | .ok c =>
    match ← openStore c, checkImage c with
    | .error e, _ => tellFailure e.message
    | .ok _, .error e => tellFailure e.message
    | .ok _, .ok _ =>
      c.summary.forM fun line => IO.println line
      return 0

end BootServer.Config

open BootServer Config in
def main (words : List String) : IO UInt32 := do
  let environment ← readEnvironment
  match Options.read words (environment.lookup ·) with
  | .error e => tellUsage e
  | .ok o => start o
