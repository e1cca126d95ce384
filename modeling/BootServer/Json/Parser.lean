import BootServer.Json.Basic

/-!
Reading JSON, as whoever asks for the server's health does. Every value is read from the front of a
text and leaves the rest of it.
-/
namespace BootServer.Json

def isSpace (c : Char) : Bool := c = ' ' || c = '\n' || c = '\r' || c = '\t'

def skip (l : List Char) : List Char := l.dropWhile isSpace

def hex4? (a b c d : Char) : Option Nat := do
  let a ← Text.Hex.value? a
  let b ← Text.Hex.value? b
  let c ← Text.Hex.value? c
  let d ← Text.Hex.value? d
  return ((a * 16 + b) * 16 + c) * 16 + d

def escape? : Char → Option Char
  | '"' => some '"'
  | '\\' => some '\\'
  | '/' => some '/'
  | 'b' => some '\x08'
  | 'f' => some '\x0c'
  | 'n' => some '\n'
  | 'r' => some '\r'
  | 't' => some '\t'
  | _ => none

/-- The rest of a text whose opening quote is gone; characters read so far stand in reverse. A high
surrogate must be followed by a low one. -/
def quotedRest (done : List Char) : List Char → Option (String × List Char)
  | '"' :: rest => some (String.ofList done.reverse, rest)
  | '\\' :: 'u' :: a :: b :: c :: d :: rest => do
    let n ← hex4? a b c d
    if n < 0xD800 || 0xE000 ≤ n then quotedRest (Char.ofNat n :: done) rest
    else
      match rest with
      | '\\' :: 'u' :: e :: f :: g :: h :: rest => do
        let m ← hex4? e f g h
        if n < 0xDC00 && 0xDC00 ≤ m && m < 0xE000 then
          quotedRest (Char.ofNat (0x10000 + (n - 0xD800) * 1024 + (m - 0xDC00)) :: done) rest
        else none
      | _ => none
  | '\\' :: c :: rest => do quotedRest ((← escape? c) :: done) rest
  | c :: rest => if c.toNat < 0x20 then none else quotedRest (c :: done) rest
  | [] => none

def isNumberChar (c : Char) : Bool :=
  c.isDigit || c = '-' || c = '+' || c = '.' || c = 'e' || c = 'E'

/-- Digits without leading zeros. -/
def plainDigits (l : List Char) : Bool :=
  !l.isEmpty && l.all Char.isDigit && (l.head? != some '0' || l.length = 1)

def exponent (l : List Char) : Bool :=
  match l with
  | '+' :: digits | '-' :: digits => !digits.isEmpty && digits.all Char.isDigit
  | digits => !digits.isEmpty && digits.all Char.isDigit

/-- What may follow the integer part: a fraction, an exponent, or both in this order. -/
def realTail (l : List Char) : Bool :=
  match l with
  | '.' :: rest =>
    let fraction := rest.takeWhile Char.isDigit
    !fraction.isEmpty &&
      match rest.dropWhile Char.isDigit with
      | [] => true
      | c :: rest => (c = 'e' || c = 'E') && exponent rest
  | c :: rest => (c = 'e' || c = 'E') && exponent rest
  | [] => false

def number? (l : List Char) : Option Json :=
  let negative := l.head? == some '-'
  let unsigned := if negative then l.drop 1 else l
  let whole := unsigned.takeWhile Char.isDigit
  let tail := unsigned.dropWhile Char.isDigit
  if !plainDigits whole then none
  else if tail.isEmpty then do
    let n ← Text.Decimal.value? whole
    let i : Int := if negative then -n else n
    if (negative && n = 0) || i < -9223372036854775808 || i > Text.Decimal.max64 then
      some (.real (String.ofList l))
    else some (.int i)
  else if realTail tail then some (.real (String.ofList l))
  else none

mutual

/-- Nesting is bounded by the first argument. -/
def value : Nat → List Char → Option (Json × List Char)
  | 0, _ => none
  | depth + 1, l =>
    match skip l with
    | 'n' :: 'u' :: 'l' :: 'l' :: rest => some (.null, rest)
    | 't' :: 'r' :: 'u' :: 'e' :: rest => some (.bool true, rest)
    | 'f' :: 'a' :: 'l' :: 's' :: 'e' :: rest => some (.bool false, rest)
    | '"' :: rest => (quotedRest [] rest).map fun (s, rest) => (.text s, rest)
    | '[' :: rest =>
      match skip rest with
      | ']' :: rest => some (.list [], rest)
      | _ => (items depth rest).map fun (found, rest) => (.list found, rest)
    | '\x7b' :: rest =>
      match skip rest with
      | '\x7d' :: rest => some (.object [], rest)
      | _ => (members depth rest).map fun (found, rest) => (.object found, rest)
    | l => (number? (l.takeWhile isNumberChar)).map fun n => (n, l.dropWhile isNumberChar)

def items : Nat → List Char → Option (List Json × List Char)
  | 0, _ => none
  | depth + 1, l => do
    let (item, rest) ← value depth l
    match skip rest with
    | ',' :: rest => (items depth rest).map fun (found, rest) => (item :: found, rest)
    | ']' :: rest => some ([item], rest)
    | _ => none

def members : Nat → List Char → Option (List (String × Json) × List Char)
  | 0, _ => none
  | depth + 1, l =>
    match skip l with
    | '"' :: rest => do
      let (name, rest) ← quotedRest [] rest
      match skip rest with
      | ':' :: rest => do
        let (item, rest) ← value depth rest
        match skip rest with
        | ',' :: rest => (members depth rest).map fun (found, rest) => ((name, item) :: found, rest)
        | '\x7d' :: rest => some ([(name, item)], rest)
        | _ => none
      | _ => none
    | _ => none

end

def parse? (s : String) : Option Json :=
  let l := s.toList
  match value (l.length + 1) l with
  | some (v, rest) => if (skip rest).isEmpty then some v else none
  | none => none

end BootServer.Json
