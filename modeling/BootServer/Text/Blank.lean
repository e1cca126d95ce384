import BootServer.Text.Fields

/-!
Blank characters: those with the Unicode property White_Space.
-/
namespace BootServer.Text

def isBlank (c : Char) : Bool :=
  let n := c.toNat
  (0x09 ≤ n && n ≤ 0x0D) || n = 0x20 || n = 0x85 || n = 0xA0 || n = 0x1680
    || (0x2000 ≤ n && n ≤ 0x200A) || n = 0x2028 || n = 0x2029 || n = 0x202F || n = 0x205F
    || n = 0x3000

def trim (s : String) : String := trimWhile isBlank s

def isBlankText (s : String) : Bool := s.toList.all isBlank

/-- The longest runs of characters that are not blank. -/
def words (s : String) : List String := (go s.toList).map String.ofList
where
  go (l : List Char) : List (List Char) :=
    l.foldr (fun c acc =>
      if isBlank c then [] :: acc
      else match acc with
        | [] => [[c]]
        | w :: ws => (c :: w) :: ws) [[]]
    |>.filter (· ≠ [])

end BootServer.Text
