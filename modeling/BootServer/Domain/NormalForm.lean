import BootServer.Domain.Composite
import BootServer.Domain.Mark

/-!
The composed normal form of a text: every character is taken apart, marks on one character are
sorted by their combining classes, and what can be put together is put together again. It is meant
for texts of permitted characters.
-/
namespace BootServer.Domain

/-- A character in parts. Parts of parts have no parts, so two rounds are enough. -/
def apart (c : Char) : List Char :=
  match parts? c with
  | none => [c]
  | some (first, mark) =>
    match parts? first with
    | none => [first, mark]
    | some (base, inner) => [base, inner, mark]

/-- Put a character before marks, behind those of a lower class than its own. -/
def placeMark (c : Char) : List Char → List Char
  | [] => [c]
  | d :: rest =>
    if combiningClass d ≠ 0 && combiningClass d < combiningClass c then d :: placeMark c rest
    else c :: d :: rest

/-- Sort the marks between characters that are none. -/
def sortMarks (l : List Char) : List Char := l.foldr placeMark []

/-- Put together what can be, beginning with `base`. The marks between it and the rest are `kept`,
the last of them of class `last`; a mark of the same class hides what follows from the base. -/
def composeFrom (base : Char) (kept : List Char) (last : Nat) : List Char → List Char
  | [] => base :: kept
  | c :: rest =>
    let number := combiningClass c
    let joined := if kept.isEmpty || last < number then composite? base c else none
    match joined with
    | some made => composeFrom made kept last rest
    | none =>
      if number = 0 then base :: kept ++ composeFrom c [] 0 rest
      else composeFrom base (kept ++ [c]) number rest

def normalForm (l : List Char) : List Char :=
  match sortMarks (l.flatMap apart) with
  | [] => []
  | base :: rest => composeFrom base [] 0 rest

end BootServer.Domain
