/-!
Sets of code points. A set is given by its boundaries in rising order: it begins at the first, ends
before the second, begins again at the third, and so on.
-/
namespace BootServer.Domain

abbrev Boundaries := List Nat

def Boundaries.contains (set : Boundaries) (c : Char) : Bool :=
  (set.takeWhile (· ≤ c.toNat)).length % 2 = 1

end BootServer.Domain
