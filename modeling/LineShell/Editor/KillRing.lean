/-!
# The kill ring

Text that is cut out of a line goes to a ring of a limited number of slots, from which it can be
inserted again. Cuts in a row share a slot. After an insertion the inserted text can be replaced by
what the slot before holds.
-/

namespace LineShell.Editor

/-- What the last command did with the ring. -/
inductive RingUse where
  /-- It cut text out. -/
  | cut
  /-- It inserted a slot's text of so many characters. -/
  | inserted (length : Nat)
  /-- It had nothing to do with the ring. -/
  | other
  deriving DecidableEq, Repr

/-- A ring of cut texts. -/
structure KillRing where
  /-- The texts, by slot. -/
  slots : Array (List Char) := #[]
  /-- The current slot. -/
  current : Nat := 0
  /-- What the last command did. -/
  lastUse : RingUse := .other
  deriving DecidableEq, Repr

namespace KillRing

/-- How many slots a ring has. -/
def capacity : Nat := 60

/-- Another command comes in between. -/
def rest (r : KillRing) : KillRing :=
  { r with lastUse := .other }

/-- Keep a cut text. After another cut it joins the current slot, at the front if `atFront`;
otherwise it takes the next slot, going around once all are in use. -/
def keep (cs : List Char) (atFront : Bool) (r : KillRing) : KillRing :=
  if r.lastUse = .cut then
    { r with slots := r.slots.modify r.current fun ds => if atFront then cs ++ ds else ds ++ cs }
  else
    let next :=
      if r.current = capacity - 1 then 0
      else if r.slots.isEmpty then r.current
      else r.current + 1
    { slots := if next = r.slots.size then r.slots.push cs else r.slots.setIfInBounds next cs
      current := next
      lastUse := .cut }

/-- The text of the current slot, to be inserted. -/
def take (r : KillRing) : Option (List Char × KillRing) :=
  r.slots[r.current]?.map fun cs => (cs, { r with lastUse := .inserted cs.length })

/-- After an insertion: how many characters were inserted, and the text of the slot before, which
becomes the current one, to be inserted in their place. -/
def takeEarlier (r : KillRing) : Option (Nat × List Char × KillRing) :=
  match r.lastUse with
  | .inserted n =>
    let earlier := if r.current = 0 then r.slots.size - 1 else r.current - 1
    r.slots[earlier]?.map fun cs =>
      (n, cs, { r with current := earlier, lastUse := .inserted cs.length })
  | _ => none

end KillRing

end LineShell.Editor
