import BootServer.Yaml.Layout

/-!
The document of a YAML text: a tree of scalars, sequences and mappings, in which an alias names
another node of the tree. Every anchored node has a serial number, and the names are numbered too: a
name takes the count of names in use when it is set. A name set again therefore shares the number
of the next new name, and of the nodes under one number the last one counts.
-/
namespace BootServer.Yaml

inductive Node where
  | alias (number : Nat)
  | scalar (tag : Option String) (style : Style) (text : String)
  | sequence (tag : Option String) (items : List Node)
  | mapping (tag : Option String) (pairs : List (Node × Node))

namespace Node

/-- What stands where a node is left out. -/
def absent : Node := .scalar none .plain ""

mutual

/-- The number of nodes, where a collection counts twice, for its two ends. -/
def weight : Node → Nat
  | .alias _ | .scalar .. => 1
  | .sequence _ items => 2 + weightOfItems items
  | .mapping _ pairs => 2 + weightOfPairs pairs

def weightOfItems : List Node → Nat
  | [] => 0
  | n :: rest => weight n + weightOfItems rest

def weightOfPairs : List (Node × Node) → Nat
  | [] => 0
  | (k, v) :: rest => weight k + weight v + weightOfPairs rest

end

end Node

structure Document where
  root : Node
  /-- Serial numbers of anchored nodes by name number, the last one first. -/
  serials : List (Nat × Nat) := []
  anchored : List (Nat × Node) := []

namespace Document

/-- The node an alias stands for. -/
def target? (d : Document) (number : Nat) : Option Node :=
  (d.serials.lookup number).bind fun serial => d.anchored.lookup serial

/-- Names and anchored nodes met so far. -/
structure Anchors where
  names : List (String × Nat) := []
  serials : List (Nat × Nat) := []
  anchored : List (Nat × Node) := []

namespace Anchors

def set (a : Anchors) (name : String) : Anchors × Nat :=
  let number := a.names.length
  let serial := a.serials.length
  ({ a with
      names := (name, number) :: a.names.filter (·.1 ≠ name)
      serials := (number, serial) :: a.serials }, serial)

def fill (a : Anchors) (serial : Option Nat) (node : Node) : Anchors :=
  match serial with
  | some serial => { a with anchored := (serial, node) :: a.anchored }
  | none => a

end Anchors

/-- What is left to read. -/
structure Input where
  tokens : List Token
  anchors : Anchors := {}
  /-- Tag handles and what they stand for. -/
  handles : List (String × String)

namespace Input

def next (i : Input) : Option Token := i.tokens.head?

def drop (i : Input) : Input := { i with tokens := i.tokens.tail }

def nextIn (i : Input) (ts : List Token) : Bool := i.next.any (· ∈ ts)

end Input

/-- Anchor and tag in front of a node, in either order. -/
structure Properties where
  anchor : Option String := none
  tag : Option (String × String) := none

def properties (i : Input) : Properties × Input :=
  match i.tokens with
  | .anchor a :: .tag h s :: rest | .tag h s :: .anchor a :: rest =>
    ({ anchor := some a, tag := some (h, s) }, { i with tokens := rest })
  | .anchor a :: rest => ({ anchor := some a }, { i with tokens := rest })
  | .tag h s :: rest => ({ tag := some (h, s) }, { i with tokens := rest })
  | _ => ({}, i)

/-- A tag in full; `none` if its handle is not known. -/
def fullTag? (handles : List (String × String)) (tag : String × String) : Option String :=
  if tag.1 = "" then some tag.2 else (handles.lookup tag.1).map (· ++ tag.2)

/-- Tokens that come after a node has been left out, by where it stands. -/
def endsBlockItem : List Token := [.item, .blockEnd]
def endsIndentlessItem : List Token := [.item, .key, .value, .blockEnd]
def endsBlockPart : List Token := [.key, .value, .blockEnd]
def endsFlowPart : List Token := [.separator, .mappingEnd]
def endsPairPart : List Token := [.separator, .sequenceEnd]

mutual

/-- Read a node. `block` admits block collections, `indentless` a block sequence without
indentation of its own. -/
def node (block indentless : Bool) : Nat → Input → Option (Node × Input)
  | 0, _ => none
  | fuel + 1, i =>
    match i.tokens with
    | .alias name :: rest =>
      (i.anchors.names.lookup name).map fun number => (.alias number, { i with tokens := rest })
    | _ => do
      let (p, i) := properties i
      let tag ← match p.tag with
        | some tag => (fullTag? i.handles tag).map some
        | none => some none
      let (anchors, serial) := match p.anchor with
        | some name => let (a, n) := i.anchors.set name; (a, some n)
        | none => (i.anchors, none)
      let tag := tag.filter (· ≠ "")
      let (n, i) ← content block indentless fuel tag (p.anchor.isSome || p.tag.isSome)
        { i with anchors := anchors }
      return (n, { i with anchors := i.anchors.fill serial n })

def content (block indentless : Bool) : Nat → Option String → Bool → Input → Option (Node × Input)
  | 0, _, _, _ => none
  | fuel + 1, tag, marked, i =>
    match i.next with
    | some .item =>
      if indentless then
        (indentlessItems fuel i).map fun (items, i) => (.sequence tag items, i)
      else absentIf marked tag i
    | some (.scalar style text) => some (.scalar tag style text, i.drop)
    | some .sequenceStart =>
      (flowItems true fuel i.drop).map fun (items, i) => (.sequence tag items, i)
    | some .mappingStart =>
      (flowPairs true fuel i.drop).map fun (pairs, i) => (.mapping tag pairs, i)
    | some .blockSequence =>
      if block then (blockItems fuel i.drop).map fun (items, i) => (.sequence tag items, i)
      else absentIf marked tag i
    | some .blockMapping =>
      if block then (blockPairs fuel i.drop).map fun (pairs, i) => (.mapping tag pairs, i)
      else absentIf marked tag i
    | _ => absentIf marked tag i

/-- A node with a tag or an anchor may have no content. -/
def absentIf (marked : Bool) (tag : Option String) (i : Input) : Option (Node × Input) :=
  if marked then some (.scalar tag .plain "", i) else none

def blockItems : Nat → Input → Option (List Node × Input)
  | 0, _ => none
  | fuel + 1, i =>
    match i.next with
    | some .item => do
      let (n, i) ← optional endsBlockItem true false fuel i.drop
      let (rest, i) ← blockItems fuel i
      return (n :: rest, i)
    | some .blockEnd => some ([], i.drop)
    | _ => none

def indentlessItems : Nat → Input → Option (List Node × Input)
  | 0, _ => none
  | fuel + 1, i =>
    match i.next with
    | some .item => do
      let (n, i) ← optional endsIndentlessItem true false fuel i.drop
      let (rest, i) ← indentlessItems fuel i
      return (n :: rest, i)
    | _ => some ([], i)

/-- A node, unless one of the given tokens comes next. -/
def optional (ends : List Token) (block indentless : Bool) : Nat → Input → Option (Node × Input)
  | 0, _ => none
  | fuel + 1, i => if i.nextIn ends then some (Node.absent, i) else node block indentless fuel i

/-- The value of a pair, if a value mark comes next. -/
def valuePart (ends : List Token) (block : Bool) : Nat → Input → Option (Node × Input)
  | 0, _ => none
  | fuel + 1, i =>
    if i.next = some .value then optional ends block block fuel i.drop else some (Node.absent, i)

def blockPairs : Nat → Input → Option (List (Node × Node) × Input)
  | 0, _ => none
  | fuel + 1, i =>
    match i.next with
    | some .key => do
      let (k, i) ← optional endsBlockPart true true fuel i.drop
      let (v, i) ← valuePart endsBlockPart true fuel i
      let (rest, i) ← blockPairs fuel i
      return ((k, v) :: rest, i)
    | some .blockEnd => some ([], i.drop)
    | _ => none

def flowItems (first : Bool) : Nat → Input → Option (List Node × Input)
  | 0, _ => none
  | fuel + 1, i => do
    if i.next = some .sequenceEnd then return ([], i.drop)
    let i ← if first then some i else if i.next = some .separator then some i.drop else none
    match i.next with
    | some .sequenceEnd => return ([], i.drop)
    | some .key => do
      let (n, i) ← singlePair fuel i.drop
      let (rest, i) ← flowItems false fuel i
      return (n :: rest, i)
    | _ => do
      let (n, i) ← node false false fuel i
      let (rest, i) ← flowItems false fuel i
      return (n :: rest, i)

/-- A mapping of one pair that stands in a sequence without braces. Where its key is left out, the
token after it is passed over. -/
def singlePair : Nat → Input → Option (Node × Input)
  | 0, _ => none
  | fuel + 1, i => do
    let (k, i) ←
      if i.nextIn (.value :: endsPairPart) then some (Node.absent, i.drop)
      else node false false fuel i
    let (v, i) ← valuePart endsPairPart false fuel i
    return (.mapping none [(k, v)], i)

def flowPairs (first : Bool) : Nat → Input → Option (List (Node × Node) × Input)
  | 0, _ => none
  | fuel + 1, i => do
    if i.next = some .mappingEnd then return ([], i.drop)
    let i ← if first then some i else if i.next = some .separator then some i.drop else none
    match i.next with
    | some .mappingEnd => return ([], i.drop)
    | some .key => do
      let (k, i) ← optional (.value :: endsFlowPart) false false fuel i.drop
      let (v, i) ← valuePart endsFlowPart false fuel i
      let (rest, i) ← flowPairs false fuel i
      return ((k, v) :: rest, i)
    | _ => do
      let (k, i) ← node false false fuel i
      let (rest, i) ← flowPairs false fuel i
      return ((k, Node.absent) :: rest, i)

end

/-- The directives in front of a document: at most one version, which must be 1.1 or 1.2, and no
handle twice. -/
def directives (version : Bool) (handles : List (String × String)) :
    List Token → Option (Bool × List (String × String) × List Token)
  | .version major minor :: rest =>
    if version || major ≠ 1 || (minor ≠ 1 && minor ≠ 2) then none else directives true handles rest
  | .tagHandle handle expansion :: rest =>
    if (handles.lookup handle).isSome then none
    else directives version ((handle, expansion) :: handles) rest
  | rest => some (version, handles, rest)

def defaultHandles : List (String × String) := [("!", "!"), ("!!", "tag:yaml.org,2002:")]

def documentTokens : List Token := [.documentStart, .documentEnd]

def isDirective : Token → Bool
  | .version .. | .tagHandle .. => true
  | _ => false

/-- The only document of a token sequence; a sequence without any is a document without content. -/
def ofTokens? (ts : List Token) : Option Document := do
  if ts.isEmpty then return { root := Node.absent }
  let fuel := 4 * ts.length + 8
  let (root, i) ←
    if ts.head? = some .documentStart || ts.head?.any isDirective then do
      let (_, handles, rest) ← directives false [] ts
      let i : Input := { tokens := rest.tail, handles := handles ++ defaultHandles }
      if rest.head? ≠ some .documentStart then none
      if i.tokens.isEmpty || i.nextIn documentTokens || i.next.any isDirective then
        some (Node.absent, i)
      else node true false fuel i
    else node true false fuel { tokens := ts, handles := defaultHandles }
  if i.tokens.all (· = .documentEnd) then
    return { root := root, serials := i.anchors.serials, anchored := i.anchors.anchored }
  else none

def parse? (s : String) : Option Document := (tokens? s).bind ofTokens?

end Document
end BootServer.Yaml
