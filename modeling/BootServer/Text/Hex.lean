/-!
Hexadecimal digits. Either case is read and lower case is written unless upper case is asked for.
-/
namespace BootServer.Text.Hex

def value? (c : Char) : Option Nat :=
  if c.isDigit then some (c.toNat - '0'.toNat)
  else if 'a' ≤ c && c ≤ 'f' then some (c.toNat - 'a'.toNat + 10)
  else if 'A' ≤ c && c ≤ 'F' then some (c.toNat - 'A'.toNat + 10)
  else none

def isDigit (c : Char) : Bool := (value? c).isSome

def lower (n : Nat) : Char := Char.ofNat (if n < 10 then '0'.toNat + n else 'a'.toNat + (n - 10))

def upper (n : Nat) : Char := Char.ofNat (if n < 10 then '0'.toNat + n else 'A'.toNat + (n - 10))

def octetLower (b : UInt8) : List Char := [lower (b.toNat / 16), lower (b.toNat % 16)]

def octetUpper (b : UInt8) : List Char := [upper (b.toNat / 16), upper (b.toNat % 16)]

/-- Two digits as one octet. -/
def octet? (a b : Char) : Option UInt8 :=
  match value? a, value? b with
  | some x, some y => some (UInt8.ofNat (x * 16 + y))
  | _, _ => none

/-- The digits of a number without leading zeros. -/
def number (n : Nat) : String := String.ofList (Nat.toDigits 16 n)

end BootServer.Text.Hex
