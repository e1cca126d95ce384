import BootServer.Domain.Direction
import BootServer.Domain.Joining
import BootServer.Domain.NormalForm
import BootServer.Domain.Permitted
import BootServer.Domain.Punycode

/-!
Domain names with labels that stand for others. A label that begins with `xn--` stands for one with
characters outside ASCII, and it must be one that such a label could have been made of.
-/
namespace BootServer.Domain

/-- What begins a label that stands for another one. -/
def encodedMark : String := "xn--"

/-- The longest text behind the mark. -/
def maxEncoded : Nat := 2000

/-- The longest label that is encoded. -/
def maxDecoded : Nat := 1000

/-- Could this label have been encoded? -/
def isEncodable (label : List Char) : Bool :=
  label.length ≤ maxDecoded && label.all isPermitted && normalForm label = label
    && !label.head?.any isMark && joinersFit [] label

/-- The label that a label in lower case stands for. -/
def decodeLabel? (label : List Char) : Option (List Char) :=
  match Text.after? encodedMark (String.ofList label) with
  | none => some label
  | some encoded =>
    let encoded := encoded.toList
    if encoded.getLastD '-' = '-' || maxEncoded < encoded.length then none
    else (Punycode.decode? encoded).filter isEncodable

/-- Does every label of a name in lower case stand for one? -/
def isDecodable (name : List Char) : Bool :=
  match (Text.fields '.' name).mapM decodeLabel? with
  | none => false
  | some labels => !labels.any isBidirectional || labels.all holdsDirection

end BootServer.Domain
