import BootServer.Yaml.Token

/-!
The token sequence of a YAML text. Blocks are marked by indentation alone, so tokens for their
beginnings and ends are added here. A mapping is only recognised at the colon after its first key;
its beginning and the key are then put in before the tokens of that key, which must stand on one
line.
-/
namespace BootServer.Yaml

/-- A place where a key may have begun. -/
structure KeyPlace where
  token : Nat
  line : Nat
  column : Nat
  index : Nat
  /-- Nothing but a key may stand here. -/
  required : Bool

structure Layout where
  cursor : Cursor
  tokens : Array Token := #[]
  /-- Columns of the open blocks, innermost first; outside all of them the column is -1. -/
  blocks : List Int := []
  /-- The latest key place of every open flow collection, innermost first, and of the block. -/
  places : List (Option KeyPlace) := [none]
  keyAllowed : Bool := true

namespace Layout

def flow (s : Layout) : Bool := s.places.length > 1

def indent (s : Layout) : Int := s.blocks.headD (-1)

def column (s : Layout) : Int := s.cursor.column

def push (s : Layout) (t : Token) : Layout := { s with tokens := s.tokens.push t }

/-- Step over `n` characters that make a token. -/
def take (s : Layout) (n : Nat) (t : Token) : Layout := { s.push t with cursor := s.cursor.skip n }

def allow (s : Layout) (allowed : Bool) : Layout := { s with keyAllowed := allowed }

/-! ## Keys -/

/-- A key stands on one line and within 1024 characters. -/
def KeyPlace.fresh (k : KeyPlace) (c : Cursor) : Bool := k.line = c.line && c.index ≤ k.index + 1024

/-- Forget the key places that the text has left; a required one must not be left. -/
def expire (s : Layout) : Option Layout :=
  if s.places.any fun p => p.any fun k => k.required && !KeyPlace.fresh k s.cursor then none
  else some { s with places := s.places.map fun p => p.filter fun k => KeyPlace.fresh k s.cursor }

/-- Forget the current key place. -/
def dropPlace (s : Layout) : Option Layout :=
  match s.places with
  | some k :: rest => if k.required then none else some { s with places := none :: rest }
  | _ => some s

/-- A key may begin at the next token. -/
def savePlace (s : Layout) : Option Layout :=
  if !s.keyAllowed then some s
  else do
    let s ← s.dropPlace
    let place : KeyPlace := {
      token := s.tokens.size
      line := s.cursor.line
      column := s.cursor.column
      index := s.cursor.index
      required := !s.flow && s.indent = s.column }
    return { s with places := some place :: s.places.tail }

/-! ## Blocks -/

/-- Open a block at a column further right, its token standing at `position`. -/
def openBlock (s : Layout) (column : Int) (position : Nat) (t : Token) : Layout :=
  if !s.flow && s.indent < column then
    { s with blocks := column :: s.blocks, tokens := s.tokens.insertIdxIfInBounds position t }
  else s

/-- Close the blocks that lie right of a column. -/
def closeBlocks (s : Layout) (column : Int) : Layout :=
  if s.flow then s
  else
    { s with
      blocks := s.blocks.dropWhile (· > column)
      tokens := s.tokens ++ (s.blocks.takeWhile (· > column)).map fun _ => Token.blockEnd }

/-! ## Tokens -/

/-- Blanks, comments and breaks before a token. A tab may stand where no key may begin. A byte order
mark may lead a line; it takes up a column. -/
def skipBlanks : Nat → Layout → Layout
  | 0, s => s
  | fuel + 1, s =>
    let c := if s.cursor.column = 0 && s.cursor.at? '\ufeff' then s.cursor.skip 1 else s.cursor
    let c := c.skipWhile fun x => x = ' ' || ((s.flow || !s.keyAllowed) && x = '\t')
    let c := c.skipComment
    if c.breakAt 0 then
      skipBlanks fuel { s with cursor := c.skipBreak, keyAllowed := s.keyAllowed || !s.flow }
    else { s with cursor := c }

def documentMark (s : Layout) (t : Token) : Option Layout := do
  let s ← (s.closeBlocks (-1)).dropPlace
  return (s.take 3 t).allow false

def directive (s : Layout) : Option Layout := do
  let s ← (s.closeBlocks (-1)).dropPlace
  let (t, c) ← Token.directive? s.cursor
  return { s.push t with cursor := c, keyAllowed := false }

def openFlow (s : Layout) (t : Token) : Option Layout := do
  let s ← s.savePlace
  return ({ s with places := none :: s.places }.take 1 t).allow true

def closeFlow (s : Layout) (t : Token) : Option Layout := do
  let s ← s.dropPlace
  return ({ s with places := if s.flow then s.places.tail else s.places }.take 1 t).allow false

def separator (s : Layout) : Option Layout := do
  let s ← s.dropPlace
  return (s.take 1 .separator).allow true

def item (s : Layout) : Option Layout := do
  if !s.flow && !s.keyAllowed then none
  let s ← (s.openBlock s.column s.tokens.size .blockSequence).dropPlace
  return (s.take 1 .item).allow true

def explicitKey (s : Layout) : Option Layout := do
  if !s.flow && !s.keyAllowed then none
  let s ← (s.openBlock s.column s.tokens.size .blockMapping).dropPlace
  return (s.take 1 .key).allow !s.flow

def value (s : Layout) : Option Layout :=
  match s.places with
  | some k :: rest =>
    let s := { s with places := none :: rest, tokens := s.tokens.insertIdxIfInBounds k.token .key }
    some (((s.openBlock k.column k.token .blockMapping).take 1 .value).allow false)
  | _ =>
    if !s.flow && !s.keyAllowed then none
    else some (((s.openBlock s.column s.tokens.size .blockMapping).take 1 .value).allow !s.flow)

def named (s : Layout) (t : String → Token) : Option Layout := do
  let s ← s.savePlace
  let (name, c) ← Token.name? s.cursor
  return { s.push (t name) with cursor := c, keyAllowed := false }

def tag (s : Layout) : Option Layout := do
  let s ← s.savePlace
  let (t, c) ← Token.tag? s.flow s.cursor
  return { s.push t with cursor := c, keyAllowed := false }

def block (s : Layout) (style : Style) : Option Layout := do
  let s ← s.dropPlace
  let (text, c) ← Scalar.block? (style = .literal) s.indent s.cursor
  return { s.push (.scalar style (String.ofList text)) with cursor := c, keyAllowed := true }

def quoted (s : Layout) (style : Style) : Option Layout := do
  let s ← s.savePlace
  let (text, c) ← Scalar.quoted? (style = .doubleQuoted) s.cursor
  return { s.push (.scalar style (String.ofList text)) with cursor := c, keyAllowed := false }

def plain (s : Layout) : Option Layout := do
  let s ← s.savePlace
  let p ← Scalar.plain? s.flow (s.indent + 1) s.cursor
  return { s.push (.scalar .plain (String.ofList p.text)) with
    cursor := p.cursor
    keyAllowed := p.broken }

/-- Characters that have a meaning of their own at the front of a token. -/
def isIndicator (c : Char) : Bool :=
  c ∈ ['-', '?', ':', ',', '[', ']', '\x7b', '\x7d', '#', '&', '*', '!', '|', '>', '\x27', '"', '%',
    '@', '\x60']

def startsPlain (s : Layout) (x : Char) : Bool :=
  !(isBlankOrBreak x || isIndicator x)
    || (x = '-' && !s.cursor.blankAt 1)
    || (!s.flow && (x = '?' || x = ':') && !s.cursor.endsWordAt 1)

/-- Read the token that begins with `x`. -/
def token (s : Layout) (x : Char) : Option Layout :=
  if s.cursor.column = 0 && x = '%' then s.directive
  else if s.cursor.atMarker '-' then s.documentMark .documentStart
  else if s.cursor.atMarker '.' then s.documentMark .documentEnd
  else if x = '[' then s.openFlow .sequenceStart
  else if x = '\x7b' then s.openFlow .mappingStart
  else if x = ']' then s.closeFlow .sequenceEnd
  else if x = '\x7d' then s.closeFlow .mappingEnd
  else if x = ',' then s.separator
  else if x = '-' && s.cursor.endsWordAt 1 then s.item
  else if x = '?' && (s.flow || s.cursor.endsWordAt 1) then s.explicitKey
  else if x = ':' && (s.flow || s.cursor.endsWordAt 1) then s.value
  else if x = '*' then s.named .alias
  else if x = '&' then s.named .anchor
  else if x = '!' then s.tag
  else if x = '|' && !s.flow then s.block .literal
  else if x = '>' && !s.flow then s.block .folded
  else if x = '\x27' then s.quoted .singleQuoted
  else if x = '"' then s.quoted .doubleQuoted
  else if s.startsPlain x then s.plain
  else none

def tokens? : Nat → Layout → Option (List Token)
  | 0, _ => none
  | fuel + 1, s => do
    let s := skipBlanks (s.cursor.rest.length + 1) s
    let s := (← s.expire).closeBlocks s.column
    match s.cursor.rest with
    | [] => return (← (s.closeBlocks (-1)).dropPlace).tokens.toList
    | x :: _ => tokens? fuel (← s.token x)

end Layout

/-- The tokens of a text; `none` if it holds a character or a token that YAML does not allow. -/
def tokens? (s : String) : Option (List Token) :=
  let l := s.toList
  if l.all isPrintable then Layout.tokens? (l.length + 2) { cursor := { rest := l } } else none

end BootServer.Yaml
