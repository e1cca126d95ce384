import BootServer.Net.Receive
import BootServer.Text.Blank
import BootServer.Text.Decimal
import BootServer.Text.Utf8

/-!
Syslog messages. A datagram may begin with a priority in angle brackets, from which facility and
severity follow; one without a valid priority is a notice of the user facility, kept whole.
-/
namespace BootServer.Syslog

abbrev Facility := Fin 24

abbrev Severity := Fin 8

def facilityNames : Vector String 24 := #v[
  "kern", "user", "mail", "daemon", "auth", "syslog", "lpr", "news",
  "uucp", "cron", "authpriv", "ftp", "ntp", "security", "console", "solaris-cron",
  "local0", "local1", "local2", "local3", "local4", "local5", "local6", "local7"]

def severityNames : Vector String 8 := #v[
  "emerg", "alert", "crit", "err", "warning", "notice", "info", "debug"]

def Facility.name (f : Facility) : String := facilityNames.get f

def Severity.name (s : Severity) : String := severityNames.get s

structure Message where
  facility : Facility
  severity : Severity
  text : String
  deriving DecidableEq

/-- A priority: one to three digits of a value that some facility and severity give. -/
def priority? (l : List Char) : Option (Facility × Severity) :=
  if l.length > 3 then none
  else do
    let n ← Text.Decimal.value? l
    if h : n / 8 < 24 then some (⟨n / 8, h⟩, ⟨n % 8, by omega⟩) else none

/-- Split `<priority>` off a text. -/
def cutPriority? : List Char → Option ((Facility × Severity) × List Char)
  | '<' :: rest => do
    let (digits, body) ← Text.cutFirst '>' rest
    return (← priority? digits, body)
  | _ => none

def isTrailing (c : Char) : Bool := c = '\n' || c = '\r' || c = '\x00'

def parseText (l : List Char) : Message :=
  let ((facility, severity), body) := (cutPriority? l).getD ((1, 5), l)
  { facility, severity, text := String.ofList (body.dropWhile Text.isBlank) }

/-- Read one datagram. -/
def parse (data : Octets) : Message :=
  parseText (Text.dropEndWhile isTrailing (Text.Utf8.decodeLossy data).toList)

/-- A longer datagram is cut to this many octets. -/
def maxDatagram : Nat := 8192

def receive (data : Octets) : Message := parse (data.take maxDatagram)

/-- The messages that come in, one for each datagram. -/
def serve (received : List (Except ReceiveError Octets)) : List Message × Option ReceiveError :=
  listen receive received

end BootServer.Syslog
