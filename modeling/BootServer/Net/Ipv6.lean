import BootServer.Net.Ipv4
import BootServer.Text.Hex

/-!
IPv6 addresses. An address is eight groups of sixteen bits. In text, one run of zero groups may be
written `::`, and the last two groups may be written as an IPv4 address.
-/
namespace BootServer

structure Ipv6 where
  groups : List UInt16
  length_groups : groups.length = 8
  deriving DecidableEq

namespace Ipv6

def toNat (ip : Ipv6) : Nat := ip.groups.foldl (fun n g => n * 65536 + g.toNat) 0

def ofGroups? (gs : List UInt16) : Option Ipv6 :=
  if h : gs.length = 8 then some ⟨gs, h⟩ else none

/-- One group: one to four hexadecimal digits. -/
def group? (l : List Char) : Option UInt16 :=
  if l.isEmpty || l.length > 4 then none
  else (l.foldlM (fun n c => (Text.Hex.value? c).map (n * 16 + ·)) 0).map UInt16.ofNat

def groupsOfIpv4 (ip : Ipv4) : List UInt16 := [Octets.word16 ip.a ip.b, Octets.word16 ip.c ip.d]

/-- Groups joined by colons, of which the last may be an IPv4 address where `mixed` allows it. -/
def groups? (mixed : Bool) (l : List Char) : Option (List UInt16) :=
  if l.isEmpty then some []
  else
    let fs := Text.fields ':' l
    let last := fs.getLastD []
    match if mixed then Ipv4.parseChars? last else none with
    | some ip => (fs.dropLast.mapM group?).map (· ++ groupsOfIpv4 ip)
    | none => fs.mapM group?

/-- Cut at the first `::`. -/
def cutElision : List Char → Option (List Char × List Char)
  | ':' :: ':' :: rest => some ([], rest)
  | c :: rest => (cutElision rest).map fun (head, tail) => (c :: head, tail)
  | [] => none

def parseChars? (l : List Char) : Option Ipv6 :=
  match cutElision l with
  | none => (groups? true l).bind ofGroups?
  | some (head, tail) => do
    let front ← groups? false head
    let back ← groups? true tail
    if front.length + back.length ≤ 7 then
      ofGroups? (front ++ List.replicate (8 - front.length - back.length) 0 ++ back)
    else none

def parse? (s : String) : Option Ipv6 := parseChars? s.toList

/-- Length of the run of zero groups at the front. -/
def zeroRun (gs : List UInt16) : Nat := (gs.takeWhile (· = 0)).length

/-- Start and length of the longest run of two or more zero groups, the first of several. -/
def longestZeroRun (gs : List UInt16) : Option (Nat × Nat) :=
  (List.range gs.length).foldl (fun best i =>
    let n := zeroRun (gs.drop i)
    if n > (best.map (·.2)).getD 1 then some (i, n) else best) none

def joinGroups (gs : List UInt16) : String :=
  ":".intercalate (gs.map fun g => Text.Hex.number g.toNat)

/-- The form with the longest zero run elided and every group in hexadecimal. -/
def hexText (ip : Ipv6) : String :=
  match longestZeroRun ip.groups with
  | none => joinGroups ip.groups
  | some (i, n) => joinGroups (ip.groups.take i) ++ "::" ++ joinGroups (ip.groups.drop (i + n))

/-- The IPv4 address that an IPv4-mapped address stands for. -/
def mapped? (ip : Ipv6) : Option Ipv4 :=
  match ip.groups with
  | [0, 0, 0, 0, 0, 0xFFFF, hi, lo] => some (.ofNat (hi.toNat * 65536 + lo.toNat))
  | _ => none

/-- The canonical form, in which mapped addresses end in an IPv4 address. -/
def text (ip : Ipv6) : String :=
  match ip.mapped? with
  | some v4 => "::ffff:" ++ v4.text
  | none => ip.hexText

end Ipv6
end BootServer
