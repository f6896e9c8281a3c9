/-!
# Readers of typed characters

What a key or a command means is found by reading characters one after another. A reader takes
some characters from the front of those that are there, or finds that there are not enough. It
never gives back more than it got, so repeated reading comes to an end.
-/

namespace LineShell.Editor

/-- A reader of a value from the front of typed characters; without a result the characters do not
suffice. -/
def Reader (α : Type) : Type :=
  (cs : List Char) → Option (α × { rest : List Char // rest.length ≤ cs.length })

namespace Reader

/-- Read nothing. -/
def pure {α : Type} (a : α) : Reader α :=
  fun cs => some (a, ⟨cs, Nat.le_refl _⟩)

/-- Read one thing, then another. -/
def bind {α β : Type} (r : Reader α) (f : α → Reader β) : Reader β :=
  fun cs =>
    match r cs with
    | none => none
    | some (a, ⟨rest, h⟩) =>
      match f a rest with
      | none => none
      | some (b, ⟨rest', h'⟩) => some (b, ⟨rest', Nat.le_trans h' h⟩)

instance : Monad Reader where
  pure := pure
  bind := bind

/-- Read one character. -/
def char : Reader Char
  | [] => none
  | c :: rest => some (c, ⟨rest, by simp⟩)

end Reader

end LineShell.Editor
