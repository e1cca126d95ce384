import BootServer.Url.Basic

/-!
Reading URLs. Surrounding blanks and controls go first, then every tab and line break. What remains
is a scheme, the hierarchy, and an optional query and fragment; a text without a scheme is not a
URL.
-/
namespace BootServer.Url

def isControlOrSpace (c : Char) : Bool := c.toNat ≤ 0x20

def isTabOrBreak (c : Char) : Bool := c = '\t' || c = '\n' || c = '\r'

def stripped (s : String) : List Char :=
  (Text.dropEndWhile isControlOrSpace (s.toList.dropWhile isControlOrSpace)).filter
    (!isTabOrBreak ·)

def isSchemeChar (c : Char) : Bool := c.isAlphanum || c = '+' || c = '-' || c = '.'

/-- The scheme in lower case, and what follows its colon. -/
def scheme? (l : List Char) : Option (String × List Char) :=
  let name := l.takeWhile isSchemeChar
  match name, l.dropWhile isSchemeChar with
  | first :: _, ':' :: rest =>
    if first.isAlpha then some (String.ofList (name.map Char.toLower), rest) else none
  | _, _ => none

/-- Cut before and after the first occurrence of a mark. -/
def cutMark (mark : Char) (l : List Char) : List Char × Option (List Char) :=
  match Text.cutFirst mark l with
  | some (front, rest) => (front, some rest)
  | none => (l, none)

def isReservedInFragment (c : Char) : Bool := c ∈ [' ', '"', '<', '>', '\x60']

def isReservedInQuery (special : Bool) (c : Char) : Bool :=
  c ∈ [' ', '"', '#', '<', '>'] || (special && c = '\x27')

def isReservedInUserinfo (c : Char) : Bool :=
  Path.isReserved c || c ∈ ['/', ':', ';', '=', '@', '[', '\\', ']', '^', '|']

def encoded (reserved : Char → Bool) (l : List Char) : String :=
  String.ofList (Text.Percent.encode reserved l)

def isSlash (special : Bool) (c : Char) : Bool := c = '/' || (special && c = '\\')

/-- The pieces between the slashes of a path, whose first slash is gone. -/
def pieces (special : Bool) (l : List Char) : List (List Char) :=
  Text.fields '/' (l.map fun c => if isSlash special c then '/' else c)

structure Userinfo where
  username : String
  password : String

def Userinfo.isEmpty (u : Userinfo) : Bool := u.username = "" && u.password = ""

/-- User name and password stand before the last at sign. -/
def readUserinfo (l : List Char) : Userinfo :=
  match cutMark ':' l with
  | (name, password) =>
    ⟨encoded isReservedInUserinfo name, encoded isReservedInUserinfo (password.getD [])⟩

/-- Cut at the last at sign. -/
def cutUserinfo (l : List Char) : Option (List Char) × List Char :=
  match Text.cutFirst '@' l.reverse with
  | some (host, front) => (some front.reverse, host.reverse)
  | none => (none, l)

/-- The host ends at the first colon outside brackets. -/
def cutHost (inBrackets : Bool) : List Char → List Char × List Char
  | [] => ([], [])
  | ':' :: rest =>
    if inBrackets then (':' :: (cutHost inBrackets rest).1, (cutHost inBrackets rest).2)
    else ([], ':' :: rest)
  | c :: rest =>
    let inside := if c = '[' then true else if c = ']' then false else inBrackets
    let (host, after) := cutHost inside rest
    (c :: host, after)

/-- A port in the normal form of its scheme, and what follows its digits. -/
def readPort (scheme : String) : List Char → Except Error (Option UInt16 × List Char)
  | ':' :: l =>
    let digits := l.takeWhile Char.isDigit
    let rest := l.dropWhile Char.isDigit
    match Text.Decimal.value? digits with
    | none => if rest.head?.all (· = '\\') then .ok (none, rest) else .error .invalidPort
    | some n =>
      if n > Text.Decimal.max16 || !rest.head?.all (· = '\\') then .error .invalidPort
      else
        let port := UInt16.ofNat n
        .ok (if defaultPort scheme = some port then none else some port, rest)
  | l => .ok (none, l)

structure Authority where
  userinfo : Userinfo
  host : Host
  port : Option UInt16
  /-- What belongs to the path already. -/
  rest : List Char

/-- Read an authority. `followed` tells whether anything comes after it. -/
def readAuthority (scheme : String) (followed : Bool) (l : List Char) : Except Error Authority := do
  let (user, place) := cutUserinfo l
  if user = some [] && place.isEmpty && followed then throw .emptyHost
  let user := readUserinfo (user.getD [])
  let (host, after) := cutHost false place
  if isSpecial scheme && host.isEmpty then throw .emptyHost
  let host ← if isSpecial scheme then Host.parseSpecial host else Host.parseOpaque host
  if host = Host.empty && !after.isEmpty then throw .emptyHost
  let (port, rest) ← readPort scheme after
  if host = Host.empty && !user.isEmpty then throw .emptyHost
  return ⟨user, host, port, rest⟩

/-- What stands between the scheme and the query. -/
structure Hierarchy where
  userinfo : Userinfo := ⟨"", ""⟩
  host : Option Host := none
  port : Option UInt16 := none
  path : Path

def slashPath (special : Bool) (l : List Char) : Path :=
  match l with
  | [] => if special then .segments [""] else .segments []
  | c :: rest =>
    .ofPieces (pieces special (if isSlash special c then rest else l))

/-- An authority, and a path that begins with what the authority left. -/
def Authority.withPath (a : Authority) (special : Bool) (path : List Char) : Hierarchy where
  userinfo := a.userinfo
  host := some a.host
  port := a.port
  path := slashPath special (a.rest ++ path)

def specialHierarchy (scheme : String) (followed : Bool) (l : List Char) :
    Except Error Hierarchy := do
  let l := l.dropWhile (isSlash true)
  let path := l.dropWhile (!isSlash true ·)
  let a ← readAuthority scheme (followed || !path.isEmpty) (l.takeWhile (!isSlash true ·))
  return a.withPath true path

def plainHierarchy (scheme : String) (followed : Bool) : List Char → Except Error Hierarchy
  | '/' :: '/' :: l => do
    let path := l.dropWhile (· ≠ '/')
    let a ← readAuthority scheme (followed || !path.isEmpty) (l.takeWhile (· ≠ '/'))
    return a.withPath false path
  | '/' :: l => .ok { path := .ofPieces (pieces false l) }
  | l => .ok { path := .text (encoded (fun _ => false) l) }

def fileSegments (l : List Char) : List String := Path.resolve true [] (pieces true l)

/-- A `file` URL without a host, from its path without the slash in front. -/
def localFile (l : List Char) : Hierarchy where
  host := some Host.empty
  path := .ofFile (fileSegments l)

/-- A `file` URL with that host, unless its path begins with a drive. -/
def remoteFile (host : Host) (l : List Char) : Hierarchy :=
  let list := fileSegments l
  { host := some (if Path.beginsWithDrive list then Host.empty else host), path := .ofFile list }

/-- The host of a `file` URL stands between two slashes and the next. Where it is missing, or is the
local one, or a drive letter is in its place, all slashes that remain belong to the path. -/
def fileHierarchy (l : List Char) : Except Error Hierarchy :=
  match l with
  | a :: b :: rest =>
    if isSlash true a && isSlash true b then
      let name := rest.takeWhile (!isSlash true ·)
      if name.isEmpty || Path.isDriveLetter name then .ok (localFile rest)
      else do
        let host ← Host.parseSpecial name
        let path := rest.dropWhile (!isSlash true ·)
        return if host = .domain "localhost" then localFile path else remoteFile host (path.drop 1)
    else .ok (localFile (if isSlash true a then b :: rest else l))
  | [a] => .ok (localFile (if isSlash true a then [] else l))
  | [] => .ok (localFile [])

def readHierarchy (scheme : String) (followed : Bool) (l : List Char) : Except Error Hierarchy :=
  if scheme = "file" then fileHierarchy l
  else if isSpecial scheme then specialHierarchy scheme followed l
  else plainHierarchy scheme followed l

def parse (s : String) : Except Error Url := do
  let some (scheme, l) := scheme? (stripped s) | throw .relativeWithoutBase
  let (l, fragment) := cutMark '#' l
  let (l, query) := cutMark '?' l
  let h ← readHierarchy scheme (fragment.isSome || query.isSome) l
  return {
    scheme := scheme
    username := h.userinfo.username
    password := h.userinfo.password
    host := h.host
    port := h.port
    apart := h.host.isNone && Text.startsWith "//" h.path.toText
    path := h.path
    query := query.map (encoded (isReservedInQuery (isSpecial scheme)))
    fragment := fragment.map (encoded isReservedInFragment) }

end BootServer.Url
