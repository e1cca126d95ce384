import BootServer.Text.Fields

/-!
Natural numbers in decimal. Reading allows leading zeros and one leading plus sign, refuses every
other character, and refuses a value above the limit of the type the number is meant for.
-/
namespace BootServer.Text.Decimal

def digit? (c : Char) : Option Nat := if c.isDigit then some (c.toNat - '0'.toNat) else none

/-- The value of a non-empty run of digits. -/
def value? : List Char → Option Nat
  | [] => none
  | l => l.foldlM (fun n c => (digit? c).map (n * 10 + ·)) 0

def readChars? (limit : Nat) (l : List Char) : Option Nat :=
  let digits := match l with
    | '+' :: rest => rest
    | _ => l
  (value? digits).filter (· ≤ limit)

def read? (limit : Nat) (s : String) : Option Nat := readChars? limit s.toList

def text (n : Nat) : String := String.ofList (Nat.toDigits 10 n)

def max8 : Nat := 255
def max16 : Nat := 65535
def max32 : Nat := 4294967295
def max64 : Nat := 18446744073709551615

end BootServer.Text.Decimal
