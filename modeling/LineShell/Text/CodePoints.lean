/-!
# Sets of code points

A set of code points is written as the increasing list of its bounds: a range begins at each bound
of odd place and ends before the one that follows.
-/

namespace LineShell.Text

/-- Whether the code point `n` is in the set with the given bounds: an odd number of bounds lies at
or below it. -/
def inBounds (bounds : Array Nat) (n : Nat) : Bool :=
  bounds.foldl (fun inside b => if b ≤ n then !inside else inside) false

/-- No bounds, no member. -/
@[simp] theorem inBounds_empty (n : Nat) : inBounds #[] n = false := rfl

end LineShell.Text
