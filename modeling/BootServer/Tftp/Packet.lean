import BootServer.Octets
import BootServer.Text.Fields
import BootServer.Text.Utf8

/-!
TFTP packets during a transfer: what the server sends, and how it reads what a client sends back.
-/
namespace BootServer.Tftp

namespace Opcode

def read : UInt16 := 1
def write : UInt16 := 2
def data : UInt16 := 3
def ack : UInt16 := 4
def error : UInt16 := 5
def optionAck : UInt16 := 6

end Opcode

namespace ErrorCode

def undefined : UInt16 := 0
def fileNotFound : UInt16 := 1
def accessViolation : UInt16 := 2
def illegalOperation : UInt16 := 4

end ErrorCode

/-- What the server sends. -/
inductive Packet where
  | data (block : UInt16) (content : Octets)
  | error (code : UInt16) (message : String)
  | optionAck (options : List (String × String))
  deriving DecidableEq

/-- A text with its final NUL. -/
def encodeField (s : String) : Octets := Octets.ofText s ++ [0]

def Packet.encode : Packet → Octets
  | .data block content => Octets.ofWord16 Opcode.data ++ Octets.ofWord16 block ++ content
  | .error code message =>
    Octets.ofWord16 Opcode.error ++ Octets.ofWord16 code ++ encodeField message
  | .optionAck options =>
    Octets.ofWord16 Opcode.optionAck
      ++ options.flatMap fun (name, value) => encodeField name ++ encodeField value

/-- What a client sends back. -/
inductive Reply where
  | ack (block : UInt16)
  | error (code : UInt16) (message : String)
  | other
  deriving DecidableEq

def Reply.parse : Octets → Reply
  | a :: b :: c :: d :: rest =>
    let opcode := Octets.word16 a b
    let value := Octets.word16 c d
    if opcode = Opcode.ack then .ack value
    else if opcode = Opcode.error then
      .error value (Text.Utf8.decodeLossy (Octets.untilNul rest))
    else .other
  | _ => .other

end BootServer.Tftp
