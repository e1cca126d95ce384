import BootServer.Text.Decimal

/-!
Spans of milliseconds as text: seconds from one second up, milliseconds below, and a fraction
without trailing zeros. No time at all is written in the smallest unit there is.
-/
namespace BootServer.Text.Duration

def fraction (thousandths : Nat) : String :=
  let digits := (Nat.toDigits 10 (1000 + thousandths)).tail
  let digits := dropEndWhile (· = '0') digits
  if digits.isEmpty then "" else "." ++ String.ofList digits

def text (ms : Nat) : String :=
  if ms = 0 then "0ns"
  else if ms < 1000 then Decimal.text ms ++ "ms"
  else Decimal.text (ms / 1000) ++ fraction (ms % 1000) ++ "s"

end BootServer.Text.Duration
