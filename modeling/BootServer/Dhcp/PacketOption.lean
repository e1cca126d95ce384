import BootServer.Dhcp.Codes
import BootServer.Dhcp.MessageType
import BootServer.Net.Ipv4
import BootServer.Text.Decimal
import BootServer.Text.Utf8

/-!
DHCP options on the wire. The option area is a sequence of pads and of items, each a code, a length
and as many octets, up to the end mark or the end of the packet. An item that does not fit makes the
packet unreadable; a value that its code does not admit only makes that option disappear.
-/
namespace BootServer.Dhcp

inductive ParseError where
  | tooShort (length : Nat)
  | unsupportedHardware (type length : UInt8)
  | wrongCookie
  /-- Nothing follows the code at this offset into the option area. -/
  | lengthMissing (offset : Nat)
  | valueShort (offset : Nat) (code length : UInt8) (left : Nat)
  deriving DecidableEq, Repr

/-- Octets before the option area, the cookie included. -/
def headerLength : Nat := 240

def ParseError.message : ParseError → String
  | .tooShort n =>
    "packet too short: expected at least " ++ Text.Decimal.text headerLength ++ " bytes, got "
      ++ Text.Decimal.text n
  | .unsupportedHardware type length =>
    "unsupported hardware type " ++ Text.Decimal.text type.toNat ++ " (length "
      ++ Text.Decimal.text length.toNat ++ ")"
  | .wrongCookie => "invalid DHCP magic cookie"
  | .lengthMissing offset =>
    "invalid option at offset " ++ Text.Decimal.text offset ++ ": length byte missing"
  | .valueShort offset code length left =>
    "invalid option at offset " ++ Text.Decimal.text offset ++ ": option "
      ++ Text.Decimal.text code.toNat ++ " declares " ++ Text.Decimal.text length.toNat
      ++ " bytes, only " ++ Text.Decimal.text left ++ " left"

/-! ## Items -/

structure Item where
  code : UInt8
  value : Octets
  deriving DecidableEq, Repr

/-- The items of an option area that begins at `offset`. -/
def items (offset : Nat) : Octets → Except ParseError (List Item)
  | [] => .ok []
  | code :: rest =>
    if code = Code.finish then .ok []
    else if code = Code.pad then items (offset + 1) rest
    else
      match rest with
      | [] => .error (.lengthMissing offset)
      | length :: body =>
        if body.length < length.toNat then .error (.valueShort offset code length body.length)
        else do
          let tail ← items (offset + 2 + length.toNat) (body.drop length.toNat)
          return ⟨code, body.take length.toNat⟩ :: tail
termination_by area => area.length
decreasing_by
  all_goals simp only [List.length_cons, List.length_drop]
  all_goals omega

/-- One item holds up to 255 octets; a longer value goes into several, and an empty one into one. -/
def encodeItem (code : UInt8) (value : Octets) : Octets :=
  if value.isEmpty then [code, 0]
  else (Octets.pieces 255 value).flatMap fun piece => code :: UInt8.ofNat piece.length :: piece

/-! ## Values -/

/-- The options that matter for booting, and every other one as it came. -/
inductive PacketOption where
  | messageType (t : MessageType)
  | requestedAddress (ip : Ipv4)
  | serverId (ip : Ipv4)
  | parameterList (codes : Octets)
  | vendorClass (name : String)
  | clientId (id : Octets)
  | userClass (name : String)
  | clientArch (code : UInt16)
  | clientNetwork (interface : Octets)
  | machineId (id : Octets)
  | other (code : UInt8) (value : Octets)
  deriving DecidableEq

/-- The option an item stands for. The architecture is the first of those listed, and the message
type the first octet. -/
def PacketOption.ofItem? (item : Item) : Option PacketOption :=
  let v := item.value
  if item.code = Code.messageType then
    v.head?.bind fun b => (MessageType.ofCode? b).map .messageType
  else if item.code = Code.requestedAddress then (Ipv4.ofOctets? v).map .requestedAddress
  else if item.code = Code.serverId then (Ipv4.ofOctets? v).map .serverId
  else if item.code = Code.parameterList then some (.parameterList v)
  else if item.code = Code.vendorClass then (Text.Utf8.decode? v).map .vendorClass
  else if item.code = Code.clientId then some (.clientId v)
  else if item.code = Code.userClass then some (.userClass (Text.Utf8.decodeLossy v))
  else if item.code = Code.clientArch then
    match v with
    | hi :: lo :: _ => some (.clientArch (Octets.word16 hi lo))
    | _ => none
  else if item.code = Code.clientNetwork then some (.clientNetwork v)
  else if item.code = Code.machineId then some (.machineId v)
  else some (.other item.code v)

/-- The options of an area, without those whose values are no good. -/
def readOptions (area : Octets) : Except ParseError (List PacketOption) :=
  (items 0 area).map (·.filterMap PacketOption.ofItem?)

end BootServer.Dhcp
