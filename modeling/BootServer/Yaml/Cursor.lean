/-!
A place in a YAML text. Columns count characters from the last line break; the breaks are those of
YAML 1.1, of which a carriage return with a line feed is one.
-/
namespace BootServer.Yaml

def isBreak (c : Char) : Bool :=
  c = '\n' || c = '\r' || c = '\x85' || c = '\u2028' || c = '\u2029'

def isBlank (c : Char) : Bool := c = ' ' || c = '\t'

def isBlankOrBreak (c : Char) : Bool := isBlank c || isBreak c

/-- Letters and digits of ASCII, the underscore and the hyphen. -/
def isWordChar (c : Char) : Bool := c.isAlphanum || c = '_' || c = '-'

/-- Characters a YAML text may hold; control characters are not among them. -/
def isPrintable (c : Char) : Bool :=
  let n := c.toNat
  c = '\t' || c = '\n' || c = '\r' || (0x20 ≤ n && n ≤ 0x7E) || n = 0x85
    || (0xA0 ≤ n && n ≤ 0xD7FF) || (0xE000 ≤ n && n ≤ 0xFFFD) || 0x10000 ≤ n

structure Cursor where
  rest : List Char
  line : Nat := 0
  column : Nat := 0
  index : Nat := 0

namespace Cursor

def peek (c : Cursor) (i : Nat) : Option Char := c.rest[i]?

def at? (c : Cursor) (x : Char) : Bool := c.peek 0 == some x

def atEnd (c : Cursor) : Bool := c.rest.isEmpty

/-- A blank, a break or the end stands `i` characters on. -/
def endsWordAt (c : Cursor) (i : Nat) : Bool := (c.peek i).all isBlankOrBreak

def breakAt (c : Cursor) (i : Nat) : Bool := (c.peek i).any isBreak

def blankAt (c : Cursor) (i : Nat) : Bool := (c.peek i).any isBlank

/-- Step over `n` characters, none of them a break. -/
def skip (c : Cursor) (n : Nat) : Cursor :=
  { c with rest := c.rest.drop n, column := c.column + n, index := c.index + n }

def run (c : Cursor) (p : Char → Bool) : List Char := c.rest.takeWhile p

def skipWhile (c : Cursor) (p : Char → Bool) : Cursor := c.skip (c.run p).length

/-- Step over a break, if one stands here. -/
def skipBreak (c : Cursor) : Cursor :=
  match c.rest with
  | '\r' :: '\n' :: rest => { rest, line := c.line + 1, column := 0, index := c.index + 2 }
  | b :: rest =>
    if isBreak b then { rest, line := c.line + 1, column := 0, index := c.index + 1 } else c
  | [] => c

/-- The break that stands here as a scalar holds it: a line feed, but for the two Unicode
separators. -/
def breakText (c : Cursor) : List Char :=
  match c.rest with
  | b :: _ => if b = '\u2028' || b = '\u2029' then [b] else if isBreak b then ['\n'] else []
  | [] => []

/-- A line of three equal marks ends or begins a document. -/
def atMarker (c : Cursor) (mark : Char) : Bool :=
  c.column = 0 && c.rest.take 3 = [mark, mark, mark] && c.endsWordAt 3

def atDocumentMarker (c : Cursor) : Bool := c.atMarker '-' || c.atMarker '.'

def skipComment (c : Cursor) : Cursor :=
  if c.at? '#' then c.skipWhile (!isBreak ·) else c

end Cursor

/-- What stands between two words of a scalar: blanks on one line, or line breaks. The first break
is kept apart, since alone it folds to a space. -/
structure Gap where
  blanks : List Char := []
  broken : Bool := false
  first : List Char := []
  more : List Char := []

namespace Gap

/-- The gap as it stands in the scalar: a line feed alone becomes a space, and before further
breaks it goes away. -/
def text (g : Gap) : List Char :=
  if !g.broken then g.blanks
  else if g.first = ['\n'] then (if g.more.isEmpty then [' '] else g.more)
  else g.first ++ g.more

/-- Read blanks and breaks. In a plain scalar a tab left of `indent` is refused. -/
def read (indent : Int) : Nat → Gap → Cursor → Option (Gap × Cursor)
  | 0, g, c => some (g, c)
  | fuel + 1, g, c =>
    match c.rest with
    | x :: _ =>
      if isBlank x then
        if g.broken then
          if x = '\t' && (c.column : Int) < indent then none else read indent fuel g (c.skip 1)
        else read indent fuel { g with blanks := g.blanks ++ [x] } (c.skip 1)
      else if isBreak x then
        if g.broken then read indent fuel { g with more := g.more ++ c.breakText } c.skipBreak
        else read indent fuel { g with broken := true, first := c.breakText } c.skipBreak
      else some (g, c)
    | [] => some (g, c)

/-- The gap at a place, entered after a broken line if `broken` says so. -/
def at? (indent : Int) (broken : Bool) (c : Cursor) : Option (Gap × Cursor) :=
  read indent c.rest.length { broken := broken } c

end Gap
end BootServer.Yaml
