import BootServer.Record.OfYaml
import BootServer.Store.Basic
import BootServer.Text.Blank

/-!
The store kept in one file: a document that maps hardware addresses, in any spelling, to records. It
is read anew for every question, through two tables that keep no order: one from spellings and, made
by walking that one, another from addresses. An address of the other family is in no record, and the
file is not read for it.
-/
namespace BootServer

/-- The records of a YAML text under their keys. -/
def decodeYaml (text : String) : Option (List (String × Record)) :=
  (Yaml.Document.parse? text).bind Yaml.Document.records?

/-- The order in which the tables are walked. A table may be walked in any order, and in another one
the next time that it is made. -/
structure Walk where
  texts : List (String × Record) → List (String × Record)
  addresses : Entries → Entries
  perm_texts : ∀ pairs, (texts pairs).Perm pairs
  perm_addresses : ∀ entries, (addresses entries).Perm entries

/-- The order of the document. -/
def Walk.asWritten : Walk where
  texts := id
  addresses := id
  perm_texts _ := .refl _
  perm_addresses _ := .refl _

structure FileStore where
  path : String
  /-- What the file holds; `none` stands for a file that cannot be read. -/
  content : Option Octets
  decode : String → Option (List (String × Record)) := decodeYaml
  walk : Walk := .asWritten

namespace FileStore

/-- A record under the address that its key names once it is trimmed. -/
def entry (pair : String × Record) : Except LookupError (HardwareAddress × Record) :=
  match HardwareAddress.parse? (Text.trim pair.1) with
  | some mac => .ok (mac, pair.2)
  | none => .error (.invalidKey pair.1)

/-- An entry in place of the one that is there for its address. -/
def put (done : Entries) (e : HardwareAddress × Record) : Entries := e :: done.filter (·.1 ≠ e.1)

/-- Of two entries for one address the later one. -/
def latest (entries : Entries) : Entries := (entries.foldl put []).reverse

/-- Records under their addresses. The first key that names no address is refused. -/
def ofKeys (pairs : List (String × Record)) : Except LookupError Entries := do
  return latest (← pairs.mapM entry)

/-- The entries of a text. A blank text holds none. -/
def parse (s : FileStore) (text : String) : Except LookupError Entries :=
  if Text.isBlankText text then .ok []
  else
    match s.decode text with
    | some pairs => (ofKeys (s.walk.texts pairs)).map s.walk.addresses
    | none => .error (.undecodable s.path)

def load (s : FileStore) : Except LookupError Entries :=
  match s.content.bind Text.Utf8.decode? with
  | some text => s.parse text
  | none => .error (.unreadable s.path)

def lookup (s : FileStore) (mac : HardwareAddress) : Except LookupError (Option Record) := do
  return (← s.load).byHardware mac

def lookupByAddress (s : FileStore) :
    IpAddress → Except LookupError (Option (HardwareAddress × Record))
  | .v4 ip => do return (← s.load).byAddress (.v4 ip)
  | .v6 _ => .ok none

def store (s : FileStore) : Store where
  name := "file"
  byHardware mac := { result := s.lookup mac }
  byAddress ip := { result := s.lookupByAddress ip }

/-- Open the store, which fails as its first question would. -/
def openStore (s : FileStore) : Except LookupError Store := do
  let _ ← s.load
  return s.store

end FileStore
end BootServer
