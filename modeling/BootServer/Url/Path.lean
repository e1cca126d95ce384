import BootServer.Text.Fields
import BootServer.Text.Percent

/-!
Paths of URLs. A path is either opaque text or a list of segments, each written after a slash. The
segments `.` and `..`, percent-encoded or not, never occur in a list: reading a path resolves them.
A `..` does not remove a drive, and a drive in front of the path of a `file` URL leaves no host.
-/
namespace BootServer.Url

inductive Path where
  | text (opaqueText : String)
  | segments (list : List String)
  deriving DecidableEq

namespace Path

def toText : Path → String
  | .text t => t
  | .segments list => "".intercalate (list.map ("/" ++ ·))

def isReserved (c : Char) : Bool := c ∈ [' ', '"', '#', '<', '>', '?', '\x60', '\x7b', '\x7d']

/-- Put `%2e` back to a dot. -/
def dotted : List Char → List Char
  | '%' :: '2' :: e :: rest =>
    if e = 'e' || e = 'E' then '.' :: dotted rest else '%' :: '2' :: dotted (e :: rest)
  | c :: rest => c :: dotted rest
  | [] => []

def isSingleDot (s : List Char) : Bool := s.length ≤ 3 && dotted s = ['.']

def isDoubleDot (s : List Char) : Bool := s.length ≤ 6 && dotted s = ['.', '.']

def isDriveMark (c : Char) : Bool := c = ':' || c = '|'

def isDriveLetter : List Char → Bool
  | [c, d] => c.isAlpha && isDriveMark d
  | _ => false

/-- Does a segment stand for a drive? What a backslash sets off may follow the letter. -/
def isDrive : List Char → Bool
  | c :: d :: rest => c.isAlpha && isDriveMark d && rest.head?.all (· = '\\')
  | _ => false

/-- A segment as it will be written. In front of a `file` path a drive letter has a colon. -/
def segment (file : Bool) (done : List String) (s : List Char) : String :=
  let s := Text.Percent.encode isReserved s
  if file && done.isEmpty && isDriveLetter s then String.ofList [s.headD ':', ':']
  else String.ofList s

/-- Remove the last segment, but not a drive. -/
def pop (done : List String) : List String :=
  if done.getLast?.any fun s => isDrive s.toList then done else done.dropLast

/-- Resolve the pieces that stand between slashes, the last of which no slash follows. The segments
before them are `done`, and `file` tells whether the path is that of a `file` URL. -/
def resolve (file : Bool) (done : List String) : List (List Char) → List String
  | [] => done
  | [last] =>
    if isDoubleDot last then pop done ++ [""]
    else if isSingleDot last then done ++ [""]
    else done ++ [segment file done last]
  | piece :: rest =>
    if isDoubleDot piece then resolve file (pop done) rest
    else if isSingleDot piece then resolve file done rest
    else resolve file (done ++ [segment file done piece]) rest

def ofPieces (pieces : List (List Char)) : Path := .segments (resolve false [] pieces)

/-- A `file` path has no empty segments in front. -/
def ofFile (list : List String) : Path :=
  match list.dropWhile (· = "") with
  | [] => .segments [""]
  | list => .segments list

def beginsWithDrive (list : List String) : Bool := list.head?.any fun s => isDriveLetter s.toList

end Path
end BootServer.Url
