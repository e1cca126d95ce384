import BootServer.Octets

/-!
Reading UTF-8. A decoder looks at the front of an octet string and finds either one well-formed
character or the longest front that no well-formed character begins with beyond it; the strict
reader refuses the latter and the lenient reader writes U+FFFD for each.
-/
namespace BootServer.Text.Utf8

/-- What stands at the front of a non-empty octet string, with the octets after it. -/
inductive Front where
  | char (c : Char) (rest : Octets)
  | malformed (rest : Octets)

def isContinuation (b : UInt8) : Bool := 0x80 ≤ b && b ≤ 0xBF

/-- Octets allowed second, after the lead octet of a form of three or four octets. -/
def secondRange (lead : UInt8) : UInt8 × UInt8 :=
  if lead = 0xE0 then (0xA0, 0xBF)
  else if lead = 0xED then (0x80, 0x9F)
  else if lead = 0xF0 then (0x90, 0xBF)
  else if lead = 0xF4 then (0x80, 0x8F)
  else (0x80, 0xBF)

def isSecond (lead b : UInt8) : Bool :=
  (secondRange lead).1 ≤ b && b ≤ (secondRange lead).2

/-- The six low bits, which a continuation octet contributes. -/
def low (b : UInt8) : Nat := b.toNat % 64

/-- Read one character, or the longest malformed front. -/
def front (b : UInt8) (bs : Octets) : Front :=
  if b < 0x80 then .char (Char.ofNat b.toNat) bs
  else if b < 0xC2 then .malformed bs
  else if b < 0xE0 then
    match bs with
    | c :: rest =>
      if isContinuation c then .char (Char.ofNat (b.toNat % 32 * 64 + low c)) rest
      else .malformed bs
    | [] => .malformed []
  else if b < 0xF0 then
    match bs with
    | c :: d :: rest =>
      if isSecond b c then
        if isContinuation d then
          .char (Char.ofNat (b.toNat % 16 * 4096 + low c * 64 + low d)) rest
        else .malformed (d :: rest)
      else .malformed bs
    | [c] => if isSecond b c then .malformed [] else .malformed bs
    | [] => .malformed []
  else if b < 0xF5 then
    match bs with
    | c :: d :: e :: rest =>
      if isSecond b c then
        if isContinuation d then
          if isContinuation e then
            .char (Char.ofNat (b.toNat % 8 * 262144 + low c * 4096 + low d * 64 + low e)) rest
          else .malformed (e :: rest)
        else .malformed (d :: e :: rest)
      else .malformed bs
    | [c, d] =>
      if isSecond b c then if isContinuation d then .malformed [] else .malformed [d]
      else .malformed bs
    | [c] => if isSecond b c then .malformed [] else .malformed bs
    | [] => .malformed []
  else .malformed bs

def Front.rest : Front → Octets
  | .char _ rest => rest
  | .malformed rest => rest

theorem length_rest_front (b : UInt8) (bs : Octets) : (front b bs).rest.length ≤ bs.length := by
  unfold front
  repeat' split
  all_goals simp only [Front.rest, List.length_cons, List.length_nil]
  all_goals omega

/-- The characters of an octet string, `none` standing for a malformed front. -/
def scan : Octets → List (Option Char)
  | [] => []
  | b :: bs =>
    match h : front b bs with
    | .char c rest =>
      have : rest.length ≤ bs.length := by simpa [h, Front.rest] using length_rest_front b bs
      some c :: scan rest
    | .malformed rest =>
      have : rest.length ≤ bs.length := by simpa [h, Front.rest] using length_rest_front b bs
      none :: scan rest
termination_by bs => bs.length
decreasing_by all_goals simp only [List.length_cons]; omega

/-- Strict reading: `none` unless every octet belongs to a well-formed character. -/
def decode? (bs : Octets) : Option String :=
  ((scan bs).mapM id).map String.ofList

/-- Lenient reading: each malformed front becomes one U+FFFD. -/
def decodeLossy (bs : Octets) : String :=
  String.ofList ((scan bs).map (·.getD '\uFFFD'))

end BootServer.Text.Utf8
