/-!
Cutting a sequence at a separator. `n` separators make `n + 1` fields, so no field list is empty and
joining the fields with the separator gives the sequence back.
-/
namespace BootServer.Text

def fields {α : Type} [BEq α] (sep : α) : List α → List (List α)
  | [] => [[]]
  | a :: l =>
    if a == sep then [] :: fields sep l
    else
      match fields sep l with
      | [] => [[a]]
      | f :: fs => (a :: f) :: fs

theorem fields_ne_nil {α : Type} [BEq α] (sep : α) (l : List α) : fields sep l ≠ [] := by
  cases l with
  | nil => simp [fields]
  | cons a l =>
    simp only [fields]
    split
    · simp
    · split <;> simp

/-- Cut at the first separator; `none` if there is none. -/
def cutFirst {α : Type} [BEq α] (sep : α) : List α → Option (List α × List α)
  | [] => none
  | a :: l =>
    if a == sep then some ([], l) else (cutFirst sep l).map fun (f, rest) => (a :: f, rest)

def dropEndWhile {α : Type} (p : α → Bool) (l : List α) : List α :=
  (l.reverse.dropWhile p).reverse

/-- The fields of a text. -/
def split (sep : Char) (s : String) : List String := (fields sep s.toList).map String.ofList

def trimStartWhile (p : Char → Bool) (s : String) : String := String.ofList (s.toList.dropWhile p)

def trimEndWhile (p : Char → Bool) (s : String) : String := String.ofList (dropEndWhile p s.toList)

def trimWhile (p : Char → Bool) (s : String) : String := trimEndWhile p (trimStartWhile p s)

def startsWith (front s : String) : Bool := front.toList.isPrefixOf s.toList

/-- What follows `front`, if the text begins with it. -/
def after? (front s : String) : Option String :=
  if startsWith front s then some (String.ofList (s.toList.drop front.toList.length)) else none

end BootServer.Text
