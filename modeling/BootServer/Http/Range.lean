import BootServer.Text.Decimal

/-!
Byte ranges of a range header. A range runs from one offset to another, or to the end, or is so many
octets at the end; it is cut to the size of what it is a range of, and one that lies outside is left
out. A range that is malformed spoils the whole header.
-/
namespace BootServer.Http

structure ByteRange where
  start : Nat
  length : Nat
  deriving DecidableEq

namespace ByteRange

def isBlank (c : Char) : Bool := c = ' ' || c = '\t'

def trim (l : List Char) : List Char := Text.dropEndWhile isBlank (l.dropWhile isBlank)

def number? (l : List Char) : Option Nat :=
  (Text.Decimal.value? l).filter (· ≤ Text.Decimal.max64)

/-- The last octets, so many of them. -/
def last? (size : Nat) (count : List Char) : Option (Option ByteRange) := do
  let n ← number? count
  return if n = 0 then none else some ⟨size - min n size, min n size⟩

/-- From an offset; where the range ends is only looked at if it begins inside. -/
def from? (size : Nat) (first last : List Char) : Option (Option ByteRange) := do
  let start ← number? first
  if size ≤ start then return none
  if last.isEmpty then return some ⟨start, size - start⟩
  let stop ← number? last
  if stop < start then none else return some ⟨start, min stop (size - 1) - start + 1⟩

/-- One range; `none` if it is malformed, and no range if it lies outside. -/
def item? (size : Nat) (l : List Char) : Option (Option ByteRange) := do
  let (first, last) ← Text.cutFirst '-' l
  if (trim first).isEmpty then last? size (trim last) else from? size (trim first) (trim last)

def unit : String := "bytes="

/-- The ranges of a header value, which is empty or begins with the unit. Empty items count for
nothing. -/
def parse? (size : Nat) (value : String) : Option (List ByteRange) :=
  let l := value.toList
  let items := l.drop unit.length
  if l.isEmpty then some []
  else if (l.take unit.length).map Char.toLower = unit.toList then do
    let ranges ← (((Text.fields ',' items).map trim).filter (!·.isEmpty)).mapM (item? size)
    return ranges.filterMap id
  else none

/-- The range within a whole of the given size, as the response names it. -/
def contentRange (r : ByteRange) (total : Nat) : String :=
  "bytes " ++ Text.Decimal.text r.start ++ "-" ++ Text.Decimal.text (r.start + r.length - 1) ++ "/"
    ++ Text.Decimal.text total

end ByteRange
end BootServer.Http
