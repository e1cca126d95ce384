import BootServer.Octets
import BootServer.Text.Utf8
import BootServer.Yaml.Scalar

/-!
Tokens of a YAML text, and those that begin with a mark of their own: anchors, aliases, tags and
directives.
-/
namespace BootServer.Yaml

inductive Token where
  | documentStart
  | documentEnd
  | version (major minor : Nat)
  | tagHandle (handle expansion : String)
  | blockSequence
  | blockMapping
  | blockEnd
  | sequenceStart
  | sequenceEnd
  | mappingStart
  | mappingEnd
  | item
  | separator
  | key
  | value
  | alias (name : String)
  | anchor (name : String)
  | tag (handle suffix : String)
  | scalar (style : Style) (text : String)
  deriving DecidableEq, Repr

namespace Token

/-- What may stand after a name besides a blank. -/
def endsName (c : Char) : Bool := c ∈ ['?', ':', ',', ']', '\x7d', '%', '@', '\x60']

/-- The name after `&` or `*`. -/
def name? (c : Cursor) : Option (String × Cursor) :=
  let name := (c.skip 1).run isWordChar
  let after := c.skip (name.length + 1)
  if name.isEmpty || !(after.endsWordAt 0 || (after.peek 0).any endsName) then none
  else some (String.ofList name, after)

/-! ## Tags -/

def isUriChar (verbatim : Bool) (c : Char) : Bool :=
  isWordChar c ||
    c ∈ [';', '/', '?', ':', '@', '&', '=', '+', '$', '.', '!', '~', '*', '\x27', '(', ')', '%']
    || (verbatim && c ∈ [',', '[', ']'])

/-- Put percent escapes back to the characters they stand for; `none` if one is malformed. -/
def unescape? (l : List Char) : Option (List Char) :=
  let ok := (Text.fields '%' l).tail.all fun
    | x :: y :: _ => Text.Hex.isDigit x && Text.Hex.isDigit y
    | _ => false
  if ok then
    (Text.Utf8.decode? (octets l)).map String.toList
  else none
where
  octets : List Char → Octets
    | '%' :: x :: y :: rest => (Text.Hex.octet? x y).toList ++ octets rest
    | c :: rest => Octets.ofText (String.singleton c) ++ octets rest
    | [] => []

/-- The address part of a tag. -/
def uri? (verbatim : Bool) (c : Cursor) : Option (List Char × Cursor) :=
  let raw := c.run (isUriChar verbatim)
  (unescape? raw).map fun text => (text, c.skip raw.length)

/-- `!`, a word, and a closing `!` if there is one. -/
def handle (c : Cursor) : List Char × Cursor :=
  let word := '!' :: (c.skip 1).run isWordChar
  let after := c.skip word.length
  if after.at? '!' then (word ++ ['!'], after.skip 1) else (word, after)

/-- A tag without its surroundings: handle and suffix. -/
def tagParts? (c : Cursor) : Option (String × String × Cursor) :=
  if c.peek 1 = some '<' then do
    let (text, after) ← uri? true (c.skip 2)
    if text.isEmpty || !after.at? '>' then none
    return ("", String.ofList text, after.skip 1)
  else
    let (h, after) := handle c
    if h.length > 1 && h.getLast? = some '!' then do
      let (text, after) ← uri? false after
      if text.isEmpty then none
      return (String.ofList h, String.ofList text, after)
    else do
      let (text, after) ← uri? false after
      let suffix := h.tail ++ text
      return if suffix.isEmpty then ("", "!", after) else ("!", String.ofList suffix, after)

def tag? (flow : Bool) (c : Cursor) : Option (Token × Cursor) := do
  let (handle, suffix, after) ← tagParts? c
  if after.endsWordAt 0 || (flow && after.at? ',') then return (.tag handle suffix, after) else none

/-! ## Directives -/

def number? (c : Cursor) : Option (Nat × Cursor) :=
  let digits := c.run Char.isDigit
  if digits.length > 9 then none
  else (Text.Decimal.value? digits).map fun n => (n, c.skip digits.length)

def version? (c : Cursor) : Option (Token × Cursor) := do
  let (major, c) ← number? (c.skipWhile isBlank)
  if !c.at? '.' then none
  let (minor, c) ← number? (c.skip 1)
  return (.version major minor, c)

def tagHandle? (c : Cursor) : Option (Token × Cursor) := do
  let c := c.skipWhile isBlank
  if !c.at? '!' then none
  let (h, c) := handle c
  if h.length > 1 && h.getLast? ≠ some '!' then none
  if !c.blankAt 0 then none
  let (text, c) ← uri? true (c.skipWhile isBlank)
  if text.isEmpty || !c.endsWordAt 0 then none
  return (.tagHandle (String.ofList h) (String.ofList text), c)

/-- A directive fills its line, but for a comment. -/
def directive? (c : Cursor) : Option (Token × Cursor) := do
  let name := (c.skip 1).run isWordChar
  let after := c.skip (name.length + 1)
  if !after.endsWordAt 0 then none
  let (token, c) ←
    match String.ofList name with
    | "YAML" => version? after
    | "TAG" => tagHandle? after
    | _ => none
  let c := (c.skipWhile isBlank).skipComment
  if c.atEnd || c.breakAt 0 then return (token, c.skipBreak) else none

end Token
end BootServer.Yaml
