import BootServer.Json.Basic

/-!
The types of plain scalars under the core schema of YAML 1.2. An integer that takes more than 64 but
not more than 128 bits is refused, and one larger still is a real number; a number with a leading
zero is text, and so is a real number too large for a double.
-/
namespace BootServer.Yaml.CoreSchema

def isNull (s : String) : Bool := s ∈ ["null", "Null", "NULL", "~"]

def bool? (s : String) : Option Bool :=
  if s ∈ ["true", "True", "TRUE"] then some true
  else if s ∈ ["false", "False", "FALSE"] then some false
  else none

def isSign (c : Char) : Bool := c = '+' || c = '-'

def withoutPlus (l : List Char) : List Char :=
  match l with
  | '+' :: rest => rest
  | l => l

def withoutSign (l : List Char) : List Char :=
  match l with
  | c :: rest => if isSign c then rest else l
  | [] => []

/-- Digits with a leading zero, which do not make a number. -/
def isPaddedDigits (l : List Char) : Bool :=
  match withoutSign l with
  | '0' :: rest => !rest.isEmpty && rest.all Char.isDigit
  | _ => false

/-- The value of a non-empty run of digits of a base. -/
def digits? (base : Nat) (l : List Char) : Option Nat :=
  if l.isEmpty then none
  else l.foldlM (fun n c => ((Text.Hex.value? c).filter (· < base)).map (n * base + ·)) 0

/-- A natural number with the mark of its base. -/
def natural? : List Char → Option Nat
  | '0' :: 'x' :: rest => digits? 16 rest
  | '0' :: 'o' :: rest => digits? 8 rest
  | '0' :: 'b' :: rest => digits? 2 rest
  | l => digits? 10 l

def integer? (l : List Char) : Option Int :=
  if isPaddedDigits l then none
  else
    match l with
    | '-' :: rest => (natural? rest).map fun n => -(n : Int)
    | l => (natural? (withoutPlus l)).map Int.ofNat

/-! ## Real numbers -/

/-- A number written as a natural number times a power of ten. -/
structure Scientific where
  mantissa : Nat
  exponent : Int

def exponent? (l : List Char) : Option Int :=
  match l with
  | '-' :: rest => (digits? 10 rest).map fun n => -(n : Int)
  | l => (digits? 10 (withoutPlus l)).map Int.ofNat

/-- An unsigned decimal number: digits, a fraction, an exponent, with a digit before the last. -/
def scientific? (l : List Char) : Option Scientific := do
  let whole := l.takeWhile Char.isDigit
  let rest := l.dropWhile Char.isDigit
  let (fraction, rest) := match rest with
    | '.' :: rest => (rest.takeWhile Char.isDigit, rest.dropWhile Char.isDigit)
    | rest => ([], rest)
  let mantissa ← digits? 10 (whole ++ fraction)
  let exponent ← match rest with
    | [] => some 0
    | c :: rest => if c = 'e' || c = 'E' then exponent? rest else none
  return ⟨mantissa, exponent - fraction.length⟩

/-- The least number that rounds to infinity as a double. -/
def infinityBound : Nat := 1 <<< 1024 - 1 <<< 970

/-- Whether the number is finite as a double. -/
def Scientific.isFinite (x : Scientific) : Bool :=
  let width := (Nat.toDigits 10 x.mantissa).length
  if x.mantissa = 0 || width + x.exponent < 300 then true
  else if width + x.exponent > 320 then false
  else if x.exponent ≥ 0 then x.mantissa * Nat.pow 10 x.exponent.toNat < infinityBound
  else x.mantissa < infinityBound * Nat.pow 10 (-x.exponent).toNat

def isInfinity (l : List Char) : Bool :=
  String.ofList (withoutSign l) ∈ [".inf", ".Inf", ".INF"]

def isNotANumber (l : List Char) : Bool := String.ofList l ∈ [".nan", ".NaN", ".NAN"]

def isReal (l : List Char) : Bool :=
  isInfinity l || isNotANumber l || (scientific? (withoutSign l)).any Scientific.isFinite

/-! ## Typing -/

inductive Size where
  | word
  | tooWide
  | beyond

/-- Whether some type of so many bits, with a sign or without, has the integer. -/
def fits (bits : Nat) : Int → Bool
  | .ofNat n => n < 1 <<< bits
  | .negSucc n => n < 1 <<< (bits - 1)

/-- How an integer fits: in 64 bits, in 128, or in neither. -/
def size (i : Int) : Size := if fits 64 i then .word else if fits 128 i then .tooWide else .beyond

/-- An integer as JSON has it, inside `some`; the outer option is `none` if it is refused. -/
def int? (s : String) : Option (Option Json) :=
  match integer? s.toList with
  | none => some none
  | some i =>
    match size i with
    | .word => some (some (.int i))
    | .tooWide => none
    | .beyond => some none

/-- The value of a plain scalar; `none` if it is refused. -/
def plain? (s : String) : Option Json := do
  if s = "" || isNull s then return .null
  if let some b := bool? s then return .bool b
  if let some i ← int? s then return i
  if !isPaddedDigits s.toList && isReal s.toList then return .real s
  return .text s

end BootServer.Yaml.CoreSchema
