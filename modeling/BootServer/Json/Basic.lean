import BootServer.Text.Decimal
import BootServer.Text.Hex

/-!
JSON values. Members keep their order and may repeat, since a reader of records has to see both. A
number is an integer only if it is written as one and fits in 64 bits, with or without a sign;
negative zero is not an integer.
-/
namespace BootServer

inductive Json where
  | null
  | bool (b : Bool)
  | int (i : Int)
  | real (digits : String)
  | text (s : String)
  | list (items : List Json)
  | object (members : List (String × Json))

namespace Json

def escapeChar (c : Char) : List Char :=
  match c with
  | '"' => ['\\', '"']
  | '\\' => ['\\', '\\']
  | '\n' => ['\\', 'n']
  | '\r' => ['\\', 'r']
  | '\t' => ['\\', 't']
  | '\x08' => ['\\', 'b']
  | '\x0c' => ['\\', 'f']
  | c =>
    if c.toNat < 0x20 then ['\\', 'u', '0', '0'] ++ Text.Hex.octetLower (UInt8.ofNat c.toNat)
    else [c]

def quoted (s : String) : String := "\"" ++ String.ofList (s.toList.flatMap escapeChar) ++ "\""

def intText (i : Int) : String :=
  match i with
  | .ofNat n => Text.Decimal.text n
  | .negSucc n => "-" ++ Text.Decimal.text (n + 1)

mutual

/-- The form without blanks. -/
def render : Json → String
  | .null => "null"
  | .bool b => if b then "true" else "false"
  | .int i => intText i
  | .real digits => digits
  | .text s => quoted s
  | .list items => "[" ++ ",".intercalate (renderItems items) ++ "]"
  | .object members => "\x7b" ++ ",".intercalate (renderMembers members) ++ "\x7d"

def renderItems : List Json → List String
  | [] => []
  | item :: rest => render item :: renderItems rest

def renderMembers : List (String × Json) → List String
  | [] => []
  | (name, value) :: rest => (quoted name ++ ":" ++ render value) :: renderMembers rest

end

end Json
end BootServer
