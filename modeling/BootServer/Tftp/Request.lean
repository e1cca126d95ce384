import BootServer.Text.Decimal
import BootServer.Tftp.Packet

/-!
TFTP requests. After the opcode a request has fields, each ended by a NUL: the file, the transfer
mode, and then names of options with their values. Names of modes and options are read in any case;
of two values for one option the later counts, and a name without a value does not.
-/
namespace BootServer.Tftp

inductive RequestError where
  | tooShort (size : Nat)
  | unterminated
  | malformedField
  | emptyName
  | missingMode
  | unsupportedMode (mode : String)
  | unexpectedOpcode (opcode : UInt16)
  deriving DecidableEq

def RequestError.message : RequestError → String
  | .tooShort size => "malformed TFTP packet: " ++ Text.Decimal.text size ++ " byte request"
  | .unterminated => "malformed TFTP packet: request is not NUL terminated"
  | .malformedField => "malformed TFTP packet: field is not valid UTF-8"
  | .emptyName => "malformed TFTP packet: empty filename"
  | .missingMode => "malformed TFTP packet: missing transfer mode"
  | .unsupportedMode mode => "unsupported transfer mode '" ++ mode ++ "'"
  | .unexpectedOpcode opcode =>
    "malformed TFTP packet: unexpected opcode " ++ Text.Decimal.text opcode.toNat

/-- Options under their names, each of which occurs once. -/
abbrev Options := List (String × String)

namespace Options

/-- Set an option; an earlier value for it goes. -/
def put (options : Options) (name value : String) : Options :=
  options.filter (·.1 ≠ name) ++ [(name, value)]

def get? (options : Options) (name : String) : Option String := options.lookup name

end Options

structure ReadRequest where
  file : String
  mode : String
  options : Options
  deriving DecidableEq

inductive Request where
  | read (request : ReadRequest)
  | write (file : String)
  deriving DecidableEq

def lowered (s : String) : String := String.ofList (s.toList.map Char.toLower)

def modes : List String := ["octet", "netascii"]

/-- The fields of a request; the last octet has to be a NUL. -/
def fields (body : Octets) : Except RequestError (List String) :=
  if body.getLast? = some 0 then
    (Text.fields 0 body.dropLast).mapM fun field =>
      match Text.Utf8.decode? field with
      | some s => .ok s
      | none => .error .malformedField
  else .error .unterminated

/-- Options from alternating names and values; an empty name counts for nothing. -/
def readOptions (done : Options) : List String → Options
  | name :: value :: rest =>
    readOptions (if name = "" then done else done.put (lowered name) value) rest
  | _ => done

def readRequest (file : String) : List String → Except RequestError Request
  | [] => .error .missingMode
  | mode :: options =>
    if lowered mode ∈ modes then .ok (.read ⟨file, lowered mode, readOptions [] options⟩)
    else .error (.unsupportedMode (lowered mode))

namespace Request

def ofFields (opcode : UInt16) : List String → Except RequestError Request
  | [] | "" :: _ => .error .emptyName
  | file :: rest =>
    if opcode = Opcode.read then readRequest file rest
    else if opcode = Opcode.write then .ok (.write file)
    else .error (.unexpectedOpcode opcode)

/-- The fewest octets of a request: an opcode and two more. -/
def minSize : Nat := 4

/-- Read a request. -/
def parse (data : Octets) : Except RequestError Request :=
  match data with
  | a :: b :: body =>
    if data.length < minSize then .error (.tooShort data.length)
    else do ofFields (Octets.word16 a b) (← fields body)
  | _ => .error (.tooShort data.length)

end Request
end BootServer.Tftp
