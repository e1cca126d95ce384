import BootServer.Record.Field
import BootServer.Yaml.CoreSchema
import BootServer.Yaml.Node

/-!
Records in YAML. Lease fields have the type of their scalar under the core schema; a boot setting
that is a text takes the text of any scalar. Where a collection is expected, nothing at all is an
empty one. Fields always have names. Tags of an application make a lease field unreadable. Aliases
may be followed only so often, since they can make a small document as large as one likes.
-/
namespace BootServer.Yaml

def coreTag (name : String) : String := "tag:yaml.org,2002:" ++ name

/-- Nesting that a value may have inside a record, which is two levels down itself. -/
def maxDepth : Nat := 126

/-- A tag that begins with `!`. -/
def isLocal (tag : Option String) : Bool := tag.any (Text.startsWith "!")

/-- A scalar as the core schema or its tag types it. -/
def typedScalar (tag : Option String) (style : Style) (text : String) : Option Json :=
  match tag with
  | none => if style = .plain then CoreSchema.plain? text else some (.text text)
  | some tag =>
    if tag = coreTag "bool" then (CoreSchema.bool? text).map .bool
    else if tag = coreTag "int" then (CoreSchema.int? text).join
    else if tag = coreTag "float" then
      if CoreSchema.isReal text.toList then some (.real text) else none
    else if tag = coreTag "null" then if CoreSchema.isNull text then some .null else none
    else some (.text text)

namespace Document

/-- Reading a document, which goes on as long as aliases may be followed. The state is how many more
of them may. -/
abbrev Reading := StateT Nat Option

/-- How often aliases may be followed, for each node. -/
def followsPerNode : Nat := 100

/-- The node itself, behind an alias. -/
def target (d : Document) : Node → Reading Node
  | .alias number => fun left =>
    match left with
    | 0 => none
    | left + 1 => (d.target? number).map (·, left)
  | n => pure n

def keyText : Json → String
  | .text s => s
  | v => v.render

/-- A node by its own type. Each collection uses up one level of nesting. -/
def typed (d : Document) : Nat → Node → Reading Json
  | depth, n => do
    match ← d.target n with
    | .scalar tag style text => if isLocal tag then failure else (typedScalar tag style text).getM
    | .sequence tag items =>
      match depth with
      | 0 => failure
      | depth + 1 => if isLocal tag then failure else return .list (← items.mapM (d.typed depth))
    | .mapping tag pairs =>
      match depth with
      | 0 => failure
      | depth + 1 =>
        if isLocal tag then failure
        else
          return .object (← pairs.mapM fun (k, v) => do
            return (keyText (← d.typed depth k), ← d.typed depth v))
    | .alias _ => failure

def unset? : Node → Option Bool
  | .scalar tag .plain text =>
    if tag = some (coreTag "null") then
      if CoreSchema.isNull text then some true else none
    else if tag.isSome then some false
    else some (text = "" || CoreSchema.isNull text)
  | _ => some false

def text? : Node → Option String
  | .scalar _ _ text => some text
  | _ => none

def flag? : Node → Option Bool
  | .scalar _ .plain text => CoreSchema.bool? text
  | .scalar tag .literal text => if tag = some (coreTag "bool") then CoreSchema.bool? text else none
  | _ => none

def list? : Node → Option (List Node)
  | .sequence _ items => some items
  | .scalar _ .plain "" => some []
  | _ => none

def members (d : Document) : Node → Reading (List (String × Node))
  | .mapping _ pairs => pairs.mapM fun (k, v) => do return (← (text? (← d.target k)).getM, v)
  | .scalar _ .plain "" => return []
  | _ => failure

def recordFormat (d : Document) : Format Reading Node where
  target := d.target
  typed := d.typed maxDepth
  members := d.members
  unset := unset?
  text := text?
  flag := flag?
  list := list?
  inOrder _ := none

def keyedRecords (d : Document) : Reading (List (String × Record)) := do
  (← d.members d.root).mapM fun (key, n) => do return (key, ← Record.read d.recordFormat n)

/-- The records of a document under their keys; of a key that occurs twice the later record. -/
def records? (d : Document) : Option (List (String × Record)) := do
  let records ← d.keyedRecords.run' (followsPerNode * d.root.weight)
  return records.foldl (fun done (key, r) => (key, r) :: done.filter (·.1 ≠ key)) [] |>.reverse

end Document
end BootServer.Yaml
