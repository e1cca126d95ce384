import BootServer.Config.Flag

/-!
Reading a command line. A value follows its flag as the next word or after an equals sign; as a word
of its own it must not begin with a dash. What a flag sets is known when the next one comes, or the
words end, so that an unknown word is told before a value which is no good. After `--` no word is
known.
-/
namespace BootServer.Config

/-- A flag whose value is still to come, or has come as the last word. -/
structure Pending (α : Type) where
  flag : Flag α
  value : Option String := none

structure CommandLine (α : Type) where
  flags : List (Flag α)
  options : α
  /-- Names of the flags that were set. -/
  given : List String := []
  pending : Option (Pending α) := none
  escaped : Bool := false

namespace CommandLine

variable {α : Type}

/-- Set the option of a flag. A flag without a value counts as missing one before it counts as given
twice. -/
def assign (c : CommandLine α) (f : Flag α) (value : Option String) :
    Except UsageError (CommandLine α) :=
  match value.or f.bare with
  | none => .error (.missingValue f.name)
  | some value =>
    if f.name ∈ c.given then .error (.repeated f.name)
    else do return { c with options := ← f.set value c.options, given := f.name :: c.given }

/-- Set what is pending. -/
def settle (c : CommandLine α) : Except UsageError (CommandLine α) :=
  match c.pending with
  | some p => { c with pending := none }.assign p.flag p.value
  | none => .ok c

/-- `--help` and `--version` end the reading. -/
def stop (c : CommandLine α) (reason : UsageError) (name : String) (value : Option String) :
    Except UsageError (CommandLine α) :=
  match value with
  | some value => .error (.needlessValue name value)
  | none => do let _ ← c.settle; throw reason

/-- A word that begins with two dashes, which are gone. -/
def long (c : CommandLine α) (name : String) (value : Option String) :
    Except UsageError (CommandLine α) :=
  match c.flags.find? (·.name = name) with
  | some f => do
    let c ← c.settle
    if value.isSome then c.assign f value else return { c with pending := some ⟨f, none⟩ }
  | none =>
    if name = "help" then c.stop .help name value
    else if name = "version" then c.stop .version name value
    else .error (.unknownArgument ("--" ++ name))

/-- A word that begins with one dash, of which the first letter is given. -/
def short (c : CommandLine α) (letter : Char) : Except UsageError (CommandLine α) :=
  if letter = 'h' then c.stop .help "help" none
  else if letter = 'V' then c.stop .version "version" none
  else .error (.unknownArgument ("-" ++ letter.toString))

/-- A word that is no flag has to be the value of one. -/
def plain (c : CommandLine α) (word : String) : Except UsageError (CommandLine α) :=
  match c.pending with
  | some ⟨f, none⟩ => .ok { c with pending := some ⟨f, some word⟩ }
  | _ => .error (.unknownArgument word)

/-- Cut a name and its value at the first equals sign. -/
def cutValue (l : List Char) : String × Option String :=
  match Text.cutFirst '=' l with
  | some (name, value) => (String.ofList name, some (String.ofList value))
  | none => (String.ofList l, none)

def word (c : CommandLine α) (w : String) : Except UsageError (CommandLine α) :=
  if c.escaped then .error (.unknownArgument w)
  else
    match w.toList with
    | ['-', '-'] => .ok { c with escaped := true }
    | '-' :: '-' :: rest => let (name, value) := cutValue rest; c.long name value
    | '-' :: letter :: _ => c.short letter
    | _ => c.plain w

def words (c : CommandLine α) : List String → Except UsageError (CommandLine α)
  | [] => c.settle
  | w :: rest => do words (← c.word w) rest

/-- Take from the environment what was not given. -/
def environment (c : CommandLine α) (lookup : String → Option String) :
    Except UsageError (CommandLine α) :=
  c.flags.foldlM (fun c f =>
    match if f.name ∈ c.given then none else lookup f.variableName with
    | some value => c.assign f (some value)
    | none => .ok c) c

/-- Read words and environment over the defaults. -/
def read (flags : List (Flag α)) (defaults : α) (ws : List String)
    (lookup : String → Option String) : Except UsageError α := do
  let c ← words { flags, options := defaults } ws
  return (← c.environment lookup).options

end CommandLine
end BootServer.Config
