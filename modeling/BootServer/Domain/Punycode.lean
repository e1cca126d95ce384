import BootServer.Text.Fields

/-!
Text written in the letters, digits and hyphens of ASCII. The ASCII characters of the text come
first, up to the last hyphen; the others follow in the order of their code points, each as the
distance from the one before, counting every place where it could stand. A distance is written in
digits whose weights depend on the distances so far, the smallest weight first.
-/
namespace BootServer.Domain.Punycode

def base : Nat := 36

/-- Distances and weights are counted in 32 bits. -/
def limit : Nat := 1 <<< 32

def digit? (c : Char) : Option Nat :=
  if 'a' ≤ c && c ≤ 'z' then some (c.toNat - 'a'.toNat)
  else if c.isDigit then some (c.toNat - '0'.toNat + 26)
  else none

/-- Halve a distance down to where digits end, going `bias` further with each step. -/
def settle (bias delta : Nat) : Nat :=
  if 455 < delta then settle (bias + base) (delta / 35) else bias + base * delta / (delta + 38)
termination_by delta

/-- Where the digits of the next distance will end, judged by the last one. -/
def adapt (delta count : Nat) (first : Bool) : Nat :=
  let delta := if first then delta / 700 else delta / 2
  settle 0 (delta + delta / count)

/-- A digit below this one is the last of its distance. -/
def threshold (position bias : Nat) : Nat := max 1 (min 26 (position - bias))

/-- The text so far, and the distance that is being read. -/
structure Reading where
  text : List Char
  codePoint : Nat := 128
  /-- The place in the text behind the last character. -/
  place : Nat := 0
  bias : Nat := 72
  distance : Nat := 0
  weight : Nat := 1
  position : Nat := base

namespace Reading

/-- Put in the character that the distance leads to. -/
def insert? (r : Reading) : Option Reading :=
  let count := r.text.length + 1
  let index := r.place + r.distance
  let codePoint := r.codePoint + index / count
  let place := index % count
  if codePoint.isValidChar then
    some {
      text := r.text.insertIdx place (Char.ofNat codePoint)
      codePoint := codePoint
      place := place + 1
      bias := adapt r.distance count (r.place = 0) }
  else none

/-- Read one more digit of the distance. -/
def read? (r : Reading) (c : Char) : Option Reading :=
  match digit? c with
  | none => none
  | some digit =>
    let distance := r.distance + digit * r.weight
    let t := threshold r.position r.bias
    let weight := r.weight * (base - t)
    if limit ≤ r.place + distance then none
    else if digit < t then Reading.insert? { r with distance := distance }
    else if limit ≤ weight then none
    else
      some { r with
        distance := distance
        weight := weight
        position := r.position + base }

/-- Is no distance begun? -/
def isComplete (r : Reading) : Bool := r.position = base

end Reading

/-- The text, and the digits behind the last hyphen. Without text a hyphen is no mark. -/
def cut (l : List Char) : List Char × List Char :=
  match Text.cutFirst '-' l.reverse with
  | some (digits, text) => if text.isEmpty then ([], l) else (text.reverse, digits.reverse)
  | none => ([], l)

def decode? (l : List Char) : Option (List Char) := do
  let (text, digits) := cut l
  let r ← digits.foldlM Reading.read? { text := text }
  if r.isComplete then some r.text else none

end BootServer.Domain.Punycode
