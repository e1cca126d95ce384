import BootServer.Domain.Name
import BootServer.Net.Ipv6
import BootServer.Text.Percent

/-!
Hosts of URLs. In a special scheme a host whose last label is a number is an IPv4 address, written
in one to four parts and in decimal, octal or hexadecimal, and any other host is a domain in lower
case. Domains are ASCII here: one that decodes to anything else is refused, and so is one with a
label that stands for no other. In other schemes a host is opaque text.
-/
namespace BootServer.Url

inductive Error where
  | relativeWithoutBase
  | emptyHost
  | invalidPort
  | invalidIpv4
  | invalidIpv6
  | invalidDomain
  | invalidDomainCharacter
  deriving DecidableEq, Repr

def Error.message : Error → String
  | .relativeWithoutBase => "relative URL without a base"
  | .emptyHost => "empty host"
  | .invalidPort => "invalid port number"
  | .invalidIpv4 => "invalid IPv4 address"
  | .invalidIpv6 => "invalid IPv6 address"
  | .invalidDomain => "invalid international domain name"
  | .invalidDomainCharacter => "invalid domain character"

inductive Host where
  | domain (name : String)
  | ipv4 (ip : Ipv4)
  | ipv6 (ip : Ipv6)
  deriving DecidableEq

namespace Host

def empty : Host := .domain ""

def text : Host → String
  | .domain name => name
  | .ipv4 ip => ip.text
  | .ipv6 ip => "[" ++ ip.hexText ++ "]"

/-- The digits of a number and their base: `0x` leads hexadecimal ones, `0` octal ones. -/
def numberDigits : List Char → Nat × List Char
  | '0' :: x :: rest => if x = 'x' || x = 'X' then (16, rest) else (8, x :: rest)
  | l => (10, l)

/-- One part of an IPv4 address; no digits after the base's mark count as zero. -/
def number? (l : List Char) : Option Nat :=
  if l.isEmpty then none
  else
    let (base, digits) := numberDigits l
    digits.foldlM (fun n c =>
      ((Text.Hex.value? c).filter (· < base)).map (n * base + ·)) 0

def endsInNumber (l : List Char) : Bool :=
  let parts := Text.fields '.' l
  let last := match parts.reverse with
    | [] :: p :: _ => p
    | p :: _ => p
    | [] => []
  (!last.isEmpty && last.all Char.isDigit) || (number? last).isSome

/-- The parts before the last are single octets; the last one fills the octets that remain. -/
def ipv4? (l : List Char) : Option Ipv4 := do
  let parts := Text.fields '.' l
  let parts := if parts.getLastD [] = [] then parts.dropLast else parts
  if parts.length > 4 then none
  let numbers ← parts.mapM number?
  let high := numbers.dropLast
  let low ← numbers.getLast?
  let width := 8 * (4 - high.length)
  if low < 1 <<< width && high.all (· ≤ 255) then
    return .ofNat (high.foldl (fun n part => n * 256 + part) 0 <<< width + low)
  else none

def isForbiddenInDomain (c : Char) : Bool :=
  !Text.Percent.isAsciiText c ||
    c ∈ [' ', '%', '#', '/', ':', '<', '>', '?', '@', '[', '\\', ']', '^', '|']

def isForbiddenInOpaque (c : Char) : Bool :=
  c ∈ ['\x00', '\t', '\n', '\r', ' ', '#', '/', ':', '<', '>', '?', '@', '[', '\\', ']', '^', '|']

def bracketed? : List Char → Option (Except Error Host)
  | '[' :: rest =>
    if rest.getLast? = some ']' then
      match Ipv6.parseChars? rest.dropLast with
      | some ip => some (.ok (.ipv6 ip))
      | none => some (.error .invalidIpv6)
    else some (.error .invalidIpv6)
  | _ => none

def parseSpecial (l : List Char) : Except Error Host :=
  match bracketed? l with
  | some result => result
  | none =>
    let octets := Text.Percent.decode (Octets.ofText (String.ofList l))
    let name := octets.map fun o => (Char.ofNat o.toNat).toLower
    if name.any isForbiddenInDomain || !Domain.isDecodable name then .error .invalidDomain
    else if name.isEmpty then .error .emptyHost
    else if endsInNumber name then
      match ipv4? name with
      | some ip => .ok (.ipv4 ip)
      | none => .error .invalidIpv4
    else .ok (.domain (String.ofList name))

def parseOpaque (l : List Char) : Except Error Host :=
  match bracketed? l with
  | some result => result
  | none =>
    if l.any isForbiddenInOpaque then .error .invalidDomainCharacter
    else .ok (.domain (String.ofList (Text.Percent.encode (fun _ => false) l)))

end Host
end BootServer.Url
