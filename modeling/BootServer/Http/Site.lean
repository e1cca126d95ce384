import BootServer.Binaries
import BootServer.Http.Failure
import BootServer.Http.Forwarded
import BootServer.Http.Range
import BootServer.Image.Patched
import BootServer.Image.Payload
import BootServer.Json.Basic

/-!
What is served over HTTP: the server's health, boot loader binaries, the installer image patched for
a client, and boot scripts. Whatever is not set up has no page. Without boot scripts an unknown path
has an empty answer; with them, every path that is no other page's is a request for a script.
-/
namespace BootServer.Http

/-- The installer image, and what its payload is built from. -/
structure ImagePage (σ : Type) where
  image : Image.PatchedImage σ
  payload : Image.PayloadSettings

structure Site (σ : Type) where
  store : Store
  /-- How many milliseconds the store may take. -/
  timeout : Nat
  script : Option Script.Settings := none
  binaries : Option Binaries := none
  files : FileTree := { files := [] }
  image : Option (ImagePage σ) := none
  trusted : List Network := []
  revision : String := ""
  /-- Seconds since the start. -/
  uptime : Nat := 0

/-! ## Paths -/

/-- A part of a path, decoded. -/
def decodePart (name raw : String) : Except Failure String :=
  match Text.Utf8.decode? (Text.Percent.decode (Octets.ofText raw)) with
  | some s => .ok s
  | none => .error (.undecodable name)

def scriptName : String := "auto.ipxe"

/-- Does the path name the boot script, and for which client? The last segment is the script's name,
and the one before it may be a hardware address. -/
def scriptClient? (path : String) : Option (Option HardwareAddress) :=
  match (Text.split '/' (Text.trimWhile (· = '/') path)).reverse with
  | last :: rest =>
    if last = scriptName then some (rest.head?.bind HardwareAddress.parse?) else none
  | [] => none

inductive Route where
  | health
  | binary (file : String)
  | image (client file : String)
  | rest
  deriving DecidableEq

/-- What follows a beginning of a path, unless that is nothing. -/
def captured? (start path : String) : Option String := nonEmpty (Text.after? start path)

/-- A segment, which may be empty, and what follows its slash, which may not. -/
def cutSegment? (path : String) : Option (String × String) :=
  match Text.cutFirst '/' path.toList with
  | some (segment, rest) =>
    if rest.isEmpty then none else some (String.ofList segment, String.ofList rest)
  | none => none

/-! ## Pages -/

/-- What the range header asks for; `none` is the whole. -/
def requestedRange (headers : Headers) (total : Nat) : Except Failure (Option ByteRange) :=
  match Headers.first? headers "range" with
  | none => .ok none
  | some header =>
    match header.text? with
    | none => .error .rangeNotText
    | some value =>
      match ByteRange.parse? total value with
      | none => .error (.malformedRange value)
      | some [range] => if range.length = 0 then .error (.outsideRange total) else .ok (some range)
      | some [] => .error (.outsideRange total)
      | some _ => .error .severalRanges

/-- The head of the response with an image, or with a range of it. -/
def imageHead (total : Nat) : Option ByteRange → Response
  | none =>
    { status := .ok
      headers := [.of "accept-ranges" "bytes", Response.typeHeader Response.octetStream,
        Response.lengthHeader total] }
  | some range =>
    { status := .partialContent
      headers := [.of "accept-ranges" "bytes", Response.typeHeader Response.octetStream,
        Response.lengthHeader range.length, .of "content-range" (range.contentRange total)] }

/-- An action of a page, which may use the image. -/
abbrev Serving (σ α : Type) := ExceptT Failure (StateM (Image.Memory σ)) α

def onImage {σ α : Type} (action : Image.Access (Image.Memory σ) α) : Serving σ α := fun memory =>
  let (result, memory) := action memory
  (result.mapError .image, memory)

def decided {σ α : Type} (e : Except Failure α) : Serving σ α := fun memory => (e, memory)

/-- Send an image, or a range of it, with the payload written in. `HEAD` fails like `GET` as long as
no range has been read. -/
def ImagePage.send {σ : Type} (p : ImagePage σ) (payload : Octets) (r : Request) :
    Serving σ Response := do
  let _ ← decided ((p.image.marker.pad payload).mapError .image)
  let _ ← onImage p.image.markerOffset
  let total ← onImage p.image.length
  let range ← decided (requestedRange r.headers total)
  let head := imageHead total range
  if r.method = .head then return head
  let (start, length) := range.elim (0, total) fun range => (range.start, range.length)
  return { head with body := ← onImage (p.image.stream payload start length) }

/-- The record of a client that may boot. -/
def allowedRecord (mac : HardwareAddress) (answer : Except LookupError (Option Record)) :
    Except Failure Record :=
  match answer with
  | .error e => .error (.lookup e)
  | .ok none => .error (.noRecord mac.upperText)
  | .ok (some r) => if r.boot.allowed then .ok r else .error (.noRecord mac.upperText)

namespace Site

variable {σ : Type}

def healthPage (s : Site σ) : Response :=
  .whole .ok "application/json" (Octets.ofText
    (Json.object [("revision", .text s.revision), ("uptime", .int s.uptime),
      ("backend", .text s.store.name)]).render)

def binaryPage (s : Site σ) (b : Binaries) (file : String) : Except Failure Response :=
  match b.read s.files file with
  | .error e => .error (.image e)
  | .ok none => .error (.unknown file)
  | .ok (some data) => .ok (.whole .ok Response.octetStream data)

/-- The image for the client with that address, once its record is known. -/
def imagePage (s : Site σ) (p : ImagePage σ) (client : String) (r : Request) :
    Consulted (Serving σ Response) :=
  match HardwareAddress.parse? client with
  | none => { result := decided (.error (.hardwareAddress client)) }
  | some mac =>
    { asked := [.hardware mac]
      result := do
        let record ← decided (allowedRecord mac ((s.store.byHardware mac).within s.timeout))
        p.send (Octets.ofText (p.payload.build mac record)) r }

def scriptResponse (settings : Script.Settings) (mac : Option HardwareAddress)
    (record : Option Record) : Except Failure Response :=
  match Script.compose settings mac record with
  | .ok script => .ok (.text .ok script)
  | .error e => .error (.script e)

/-- The script for a client that the store was asked about. -/
def scriptFor (settings : Script.Settings) (path : String) :
    Except LookupError (Option (HardwareAddress × Record)) → Except Failure Response
  | .error e => .error (.lookup e)
  | .ok none => .error (.noRecord path)
  | .ok (some (mac, record)) =>
    if record.boot.allowed then scriptResponse settings (some mac) (some record)
    else .error (.notAllowed mac)

/-- The boot script. With one script for all clients the store is not asked; otherwise the client is
the one in the path, or else the one that the request comes from. -/
def scriptPage (s : Site σ) (settings : Script.Settings) (r : Request) :
    Consulted (Except Failure Response) :=
  match scriptClient? r.path with
  | none => { result := .error (.unknown r.path) }
  | some client =>
    if settings.static then { result := scriptResponse settings client none }
    else
      match client with
      | some mac =>
        { asked := [.hardware mac]
          result := scriptFor settings r.path
            (((s.store.byHardware mac).within s.timeout).map (·.map (mac, ·))) }
      | none =>
        let ip := clientAddress s.trusted r.peer r.headers
        { asked := [.address ip]
          result := scriptFor settings r.path ((s.store.byAddress ip).within s.timeout) }

/-! ## Routes -/

def binaryRoute? (s : Site σ) (path : String) : Option Route :=
  if s.binaries.isSome then (captured? "/ipxe/" path).map .binary else none

def imageRoute? (s : Site σ) (path : String) : Option Route :=
  if s.image.isSome then
    ((captured? "/iso/" path).bind cutSegment?).map fun (client, file) => .image client file
  else none

def route (s : Site σ) (path : String) : Route :=
  if path = "/healthcheck" then .health
  else ((s.binaryRoute? path).or (s.imageRoute? path)).getD .rest

def isServed (method : Method) : Bool := method = .get || method = .head

/-- The answer to a method that a page does not know. -/
def methodRefused : Response where
  status := .methodNotAllowed
  headers := [.of "allow" "GET,HEAD", Response.lengthHeader 0]

def missing : Response := { status := .notFound }

def restPage (s : Site σ) (r : Request) : Consulted (Serving σ Response) :=
  match s.script with
  | none => { result := pure missing }
  | some settings =>
    let answer := s.scriptPage settings r
    { asked := answer.asked, result := decided answer.result }

/-- The page for a request. -/
def page (s : Site σ) (r : Request) : Consulted (Serving σ Response) :=
  match s.route r.path with
  | .rest => s.restPage r
  | .health => { result := pure (if isServed r.method then s.healthPage else methodRefused) }
  | .binary file =>
    if isServed r.method then
      { result := decided do
          let file ← decodePart "file" file
          match s.binaries with
          | some b => s.binaryPage b file
          | none => .error (.unknown file) }
    else { result := pure methodRefused }
  | .image client file =>
    if isServed r.method then
      match decodePart "mac" client, decodePart "file" file, s.image with
      | .ok client, .ok _, some p => s.imagePage p client r
      | .ok _, .ok file, none => { result := decided (.error (.unknown file)) }
      | .error e, _, _ | _, .error e, _ => { result := decided (.error e) }
    else { result := pure methodRefused }

/-- Answer a request; what is known of the image stays known. -/
def handle (s : Site σ) (r : Request) (memory : Image.Memory σ) :
    Consulted Response × Image.Memory σ :=
  let page := s.page r
  let (result, memory) := page.result memory
  let response := match result with
    | .ok response => response
    | .error failure => failure.response
  ({ asked := page.asked
     result := response.answering r.method }, memory)

end Site
end BootServer.Http
