import BootServer.Mode
import BootServer.Net.Address

/-!
Command line flags. A flag reads its value and sets one option by it. Each flag has a variable of
the environment, named after it, that is read when the flag is not given.
-/
namespace BootServer.Config

inductive UsageError where
  | unknownArgument (word : String)
  | missingValue (flag : String)
  /-- The value is none of those that there are. -/
  | unlistedValue (flag value : String)
  | malformedValue (flag value : String)
  | repeated (flag : String)
  | needlessValue (flag value : String)
  | help
  | version
  deriving DecidableEq

def UsageError.message : UsageError → String
  | .unknownArgument word => "unexpected argument '" ++ word ++ "' found"
  | .missingValue flag => "a value is required for '--" ++ flag ++ "' but none was supplied"
  | .unlistedValue flag value | .malformedValue flag value =>
    "invalid value '" ++ value ++ "' for '--" ++ flag ++ "'"
  | .repeated flag => "the argument '--" ++ flag ++ "' cannot be used multiple times"
  | .needlessValue flag value =>
    "unexpected value '" ++ value ++ "' for '--" ++ flag ++ "' found; no more were expected"
  | .help => "usage: netbootd [--FLAG VALUE | --FLAG=VALUE]..."
  | .version => "netbootd 0.1.0"

/-- How a value is read, and whether it is one of a few words. -/
structure ValueForm (β : Type) where
  read? : String → Option β
  listed : Bool := false

namespace ValueForm

def mode : ValueForm Mode := { read? := Mode.ofName?, listed := true }

def boolean : ValueForm Bool where
  read? s := if s = "true" then some true else if s = "false" then some false else none
  listed := true

def text : ValueForm String := { read? := some }

/-- An option that is unset unless its flag is given. -/
def optional {β : Type} (form : ValueForm β) : ValueForm (Option β) where
  read? s := (form.read? s).map some
  listed := form.listed

def path : ValueForm String where
  read? s := if s = "" then none else some s
  listed := true

/-- A number of limited size; zero may have a minus sign. -/
def signedNumber? (limit : Nat) (s : String) : Option Nat :=
  match s.toList with
  | '-' :: digits => (Text.Decimal.value? digits).filter (· = 0)
  | l => Text.Decimal.readChars? limit l

def word16 : ValueForm UInt16 :=
  { read? := fun s => (signedNumber? Text.Decimal.max16 s).map UInt16.ofNat }

def word32 : ValueForm UInt32 :=
  { read? := fun s => (signedNumber? Text.Decimal.max32 s).map UInt32.ofNat }

def number : ValueForm Nat := { read? := Text.Decimal.read? Text.Decimal.max64 }

def ipv4 : ValueForm Ipv4 := { read? := Ipv4.parse? }

def ipAddress : ValueForm IpAddress := { read? := IpAddress.parse? }

def ipv4Endpoint : ValueForm Ipv4Endpoint := { read? := Ipv4Endpoint.parse? }

end ValueForm

/-- A flag that sets one of the options `α`. -/
structure Flag (α : Type) where
  name : String
  /-- The value that the flag has when it stands alone. -/
  bare : Option String := none
  set : String → α → Except UsageError α

namespace Flag

variable {α β : Type}

def read (name : String) (form : ValueForm β) (value : String) : Except UsageError β :=
  match form.read? value with
  | some v => .ok v
  | none =>
    .error (if form.listed then
        if value = "" then .missingValue name else .unlistedValue name value
      else .malformedValue name value)

def of (name : String) (form : ValueForm β) (put : α → β → α) : Flag α where
  name := name
  set value options := (read name form value).map (put options)

/-- A flag that may stand alone, which is to say yes. -/
def toggle (name : String) (put : α → Bool → α) : Flag α :=
  { of name .boolean put with bare := some "true" }

/-- The variable of the environment that stands in for the flag. -/
def variableName (f : Flag α) : String :=
  "NETBOOTD_" ++ String.ofList (f.name.toList.map fun c => if c = '-' then '_' else c.toUpper)

end Flag
end BootServer.Config
