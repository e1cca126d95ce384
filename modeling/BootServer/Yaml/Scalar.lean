import BootServer.Text.Decimal
import BootServer.Text.Hex
import BootServer.Yaml.Cursor

/-!
The five ways to write a scalar. Line breaks inside a plain or quoted scalar fold; a block scalar
folds or keeps them as its mark says, and its chomping mark decides about those at its end.
-/
namespace BootServer.Yaml

inductive Style where
  | plain
  | singleQuoted
  | doubleQuoted
  | literal
  | folded
  deriving DecidableEq, Repr

namespace Scalar

/-! ## Plain -/

def isFlowEnd (c : Char) : Bool := c ∈ [',', '[', ']', '\x7b', '\x7d']

/-- A colon that ends its word ends a plain scalar, and in a flow collection its indicators do. -/
def plainEnds (flow : Bool) (c : Cursor) : Bool :=
  (c.at? ':' && c.endsWordAt 1) || (flow && (c.peek 0).any isFlowEnd)

/-- In a flow collection no indicator may follow a colon. -/
def plainRefused (flow : Bool) (c : Cursor) : Bool :=
  flow && c.at? ':' && (c.peek 1).any fun x => isFlowEnd x || x = '?'

/-- One word, up to a blank, a break or an end; `none` if it is refused. -/
def plainWord (flow : Bool) : Nat → List Char → Cursor → Option (List Char × Cursor)
  | 0, done, c => some (done, c)
  | fuel + 1, done, c =>
    match c.rest with
    | x :: _ =>
      if isBlankOrBreak x then some (done, c)
      else if plainRefused flow c then none
      else if plainEnds flow c then some (done, c)
      else plainWord flow fuel (done ++ [x]) (c.skip 1)
    | [] => some (done, c)

structure Plain where
  text : List Char
  /-- A line break follows, so a new key may begin. -/
  broken : Bool
  cursor : Cursor

def plainWords (flow : Bool) (indent : Int) : Nat → List Char → Gap → Cursor → Option Plain
  | 0, done, g, c => some ⟨done, g.broken, c⟩
  | fuel + 1, done, g, c =>
    if c.atDocumentMarker || c.at? '#' then some ⟨done, g.broken, c⟩
    else do
      let (word, c) ← plainWord flow c.rest.length [] c
      let (done, left) := if word.isEmpty then (done, g) else (done ++ g.text ++ word, {})
      if !(c.peek 0).any isBlankOrBreak then return ⟨done, left.broken, c⟩
      let (g, c) ← Gap.at? indent false c
      if !flow && (c.column : Int) < indent then return ⟨done, g.broken, c⟩
      plainWords flow indent fuel done g c

def plain? (flow : Bool) (indent : Int) (c : Cursor) : Option Plain :=
  plainWords flow indent (c.rest.length + 1) [] {} c

/-! ## Quoted -/

def escaped? : Char → Option Char
  | '0' => some '\x00'
  | 'a' => some '\x07'
  | 'b' => some '\x08'
  | 't' => some '\t'
  | '\t' => some '\t'
  | 'n' => some '\n'
  | 'v' => some '\x0b'
  | 'f' => some '\x0c'
  | 'r' => some '\r'
  | 'e' => some '\x1b'
  | ' ' => some ' '
  | '"' => some '"'
  | '/' => some '/'
  | '\\' => some '\\'
  | 'N' => some '\x85'
  | '_' => some '\u00a0'
  | 'L' => some '\u2028'
  | 'P' => some '\u2029'
  | _ => none

/-- How many hexadecimal digits name the character. -/
def escapeDigits : Char → Option Nat
  | 'x' => some 2
  | 'u' => some 4
  | 'U' => some 8
  | _ => none

/-- The character that an escape names, and the length of the escape without its backslash. -/
def escape? : List Char → Option (Char × Nat)
  | [] => none
  | x :: rest =>
    match escapeDigits x with
    | none => (escaped? x).map (·, 1)
    | some n => do
      let digits := rest.take n
      if digits.length < n then none
      let v ← digits.foldlM (fun v d => (Text.Hex.value? d).map (v * 16 + ·)) 0
      if (0xD800 ≤ v && v ≤ 0xDFFF) || v > 0x10FFFF then none
      return (Char.ofNat v, n + 1)

structure Quoted where
  text : List Char
  /-- The word ended in an escaped line break. -/
  broken : Bool
  cursor : Cursor

/-- One word of a quoted scalar. -/
def quotedWord (double : Bool) : Nat → List Char → Cursor → Option Quoted
  | 0, done, c => some ⟨done, false, c⟩
  | fuel + 1, done, c =>
    match c.rest with
    | [] => some ⟨done, false, c⟩
    | x :: rest =>
      if isBlankOrBreak x then some ⟨done, false, c⟩
      else if double then
        if x = '"' then some ⟨done, false, c⟩
        else if x = '\\' then
          if c.breakAt 1 then some ⟨done, true, (c.skip 1).skipBreak⟩
          else do
            let (y, n) ← escape? rest
            quotedWord double fuel (done ++ [y]) (c.skip (n + 1))
        else quotedWord double fuel (done ++ [x]) (c.skip 1)
      else if x = '\x27' then
        if c.peek 1 = some '\x27' then quotedWord double fuel (done ++ [x]) (c.skip 2)
        else some ⟨done, false, c⟩
      else quotedWord double fuel (done ++ [x]) (c.skip 1)

def closing (double : Bool) : Char := if double then '"' else '\x27'

def quotedWords (double : Bool) : Nat → List Char → Cursor → Option (List Char × Cursor)
  | 0, _, _ => none
  | fuel + 1, done, c => do
    if c.atDocumentMarker || c.atEnd then none
    let q ← quotedWord double c.rest.length [] c
    let done := done ++ q.text
    if q.cursor.at? (closing double) then return (done, q.cursor.skip 1)
    let (g, c) ← Gap.at? 0 q.broken q.cursor
    quotedWords double fuel (done ++ g.text) c

/-- A quoted scalar at its opening quote. -/
def quoted? (double : Bool) (c : Cursor) : Option (List Char × Cursor) :=
  quotedWords double (c.rest.length + 1) [] (c.skip 1)

/-! ## Block -/

inductive Chomping where
  | strip
  | clip
  | keep
  deriving DecidableEq

structure Header where
  chomping : Chomping := .clip
  increment : Option Nat := none

def chomping? : Char → Option Chomping
  | '+' => some .keep
  | '-' => some .strip
  | _ => none

/-- The marks after `|` or `>`: a chomping mark and an indentation digit, in either order. -/
def header? (l : List Char) : Option (Header × Nat) :=
  match l with
  | x :: y :: _ =>
    match chomping? x with
    | some k =>
      if y.isDigit then (increment? y).map fun n => ({ chomping := k, increment := some n }, 2)
      else some ({ chomping := k }, 1)
    | none =>
      if x.isDigit then do
        let n ← increment? x
        match chomping? y with
        | some k => return ({ chomping := k, increment := some n }, 2)
        | none => return ({ increment := some n }, 1)
      else some ({}, 0)
  | [x] =>
    match chomping? x with
    | some k => some ({ chomping := k }, 1)
    | none =>
      if x.isDigit then (increment? x).map fun n => ({ increment := some n }, 1) else some ({}, 0)
  | [] => some ({}, 0)
where
  increment? (d : Char) : Option Nat := if d = '0' then none else Text.Decimal.digit? d

structure Breaks where
  text : List Char := []
  widest : Nat := 0
  cursor : Cursor

/-- Indentation and empty lines. `indent` is zero while it is not known. -/
def blockBreaks (indent : Nat) : Nat → Breaks → Option Breaks
  | 0, b => some b
  | fuel + 1, b =>
    let spaces := (b.cursor.run (· = ' ')).length
    let c := b.cursor.skip (if indent = 0 then spaces else min spaces (indent - b.cursor.column))
    let widest := max b.widest c.column
    if (indent = 0 || c.column < indent) && c.at? '\t' then none
    else if c.breakAt 0 then
      blockBreaks indent fuel
        { text := b.text ++ c.breakText, widest := widest, cursor := c.skipBreak }
    else some { text := b.text, widest := widest, cursor := c }

structure Lines where
  text : List Char := []
  /-- The break that ended the last line. -/
  last : List Char := []
  lastBlank : Bool := false
  trailing : List Char

/-- Lines at the scalar's indentation, joined as the style says: when folding, a single break
between two lines that do not begin with a blank is a space. -/
def blockLines (literal : Bool) (indent : Nat) : Nat → Lines → Cursor → Option (Lines × Cursor)
  | 0, l, c => some (l, c)
  | fuel + 1, l, c =>
    if c.column ≠ indent || c.atEnd then some (l, c)
    else do
      let blank := c.blankAt 0
      let join :=
        if !literal && l.last.head? = some '\n' && !l.lastBlank && !blank then
          if l.trailing.isEmpty then [' '] else []
        else l.last
      let line := c.run (!isBreak ·)
      let c := c.skip line.length
      let b ← blockBreaks indent (c.rest.length + 1) { cursor := c.skipBreak }
      blockLines literal indent fuel
        { text := l.text ++ join ++ l.trailing ++ line
          last := c.breakText
          lastBlank := blank
          trailing := b.text }
        b.cursor

/-- A block scalar at its mark. `parent` is the indentation of the block around it. -/
def block? (literal : Bool) (parent : Int) (c : Cursor) : Option (List Char × Cursor) := do
  let c := c.skip 1
  let (header, n) ← header? c.rest
  let c := ((c.skip n).skipWhile isBlank).skipComment
  if !(c.atEnd || c.breakAt 0) then none
  let c := c.skipBreak
  let given := header.increment.map fun n => (max parent 0).toNat + n
  let b ← blockBreaks (given.getD 0) (c.rest.length + 1) { cursor := c }
  let indent := given.getD (max (max b.widest (parent + 1).toNat) 1)
  let (l, c) ← blockLines literal indent (c.rest.length + 1) { trailing := b.text } b.cursor
  let ending := match header.chomping with
    | .strip => []
    | .clip => l.last
    | .keep => l.last ++ l.trailing
  return (l.text ++ ending, c)

end Scalar
end BootServer.Yaml
