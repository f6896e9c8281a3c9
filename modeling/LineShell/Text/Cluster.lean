import LineShell.Text.CodePoints
import LineShell.Text.ClusterData

/-!
# Grapheme clusters

A text is cut into user-perceived characters by the extended grapheme cluster rules: a base with
the marks that extend it, a syllable of Hangul jamo, a pair of regional indicators, pictographs
linked by joiners and the conjuncts of Indic scripts are each one cluster. The clusters of a text,
joined, are the text again (`flatten_clusters`).
-/

namespace LineShell.Text

/-- The classes of characters that cluster boundaries depend on. -/
inductive ClusterClass where
  | carriageReturn | lineFeed | control | extender | joiner | regional | prepender | spacing
  | leadingJamo | vowelJamo | trailingJamo | openSyllable | closedSyllable | pictograph | plain
  deriving DecidableEq, Repr

/-- The class of a character. -/
def clusterClass (c : Char) : ClusterClass :=
  let n := c.toNat
  if n = 0x0D then .carriageReturn
  else if n = 0x0A then .lineFeed
  else if 0x20 ≤ n ∧ n < 0x7F then .plain
  else if n = 0x200D then .joiner
  else if inBounds controls n then .control
  else if inBounds extenders n then .extender
  else if 0x1F1E6 ≤ n ∧ n ≤ 0x1F1FF then .regional
  else if inBounds prependers n then .prepender
  else if inBounds spacingMarks n then .spacing
  else if (0x1100 ≤ n ∧ n ≤ 0x115F) ∨ (0xA960 ≤ n ∧ n ≤ 0xA97C) then .leadingJamo
  else if (0x1160 ≤ n ∧ n ≤ 0x11A7) ∨ (0xD7B0 ≤ n ∧ n ≤ 0xD7C6) then .vowelJamo
  else if (0x11A8 ≤ n ∧ n ≤ 0x11FF) ∨ (0xD7CB ≤ n ∧ n ≤ 0xD7FB) then .trailingJamo
  else if 0xAC00 ≤ n ∧ n ≤ 0xD7A3 then
    if (n - 0xAC00) % 28 = 0 then .openSyllable else .closedSyllable
  else if inBounds pictographs n then .pictograph
  else .plain

/-- How far a conjunct of an Indic script has come. -/
inductive Conjunct where
  /-- No consonant to build on. -/
  | none
  /-- A consonant, perhaps with marks, but no linker yet. -/
  | consonant
  /-- A consonant and a linker: a further consonant joins the cluster. -/
  | linked
  deriving DecidableEq, Repr

/-- What the characters read so far leave behind for the next boundary. -/
structure ClusterState where
  /-- The class of the last character. -/
  last : ClusterClass
  /-- Whether an odd number of regional indicators ends here. -/
  oddRegionals : Bool
  /-- Whether a pictograph with its extenders ends here. -/
  afterPictograph : Bool
  /-- Whether a pictograph, its extenders and a joiner end here. -/
  afterLink : Bool
  /-- The conjunct that ends here. -/
  conjunct : Conjunct

/-- Whether a character is a consonant that forms conjuncts. -/
def isConjunctConsonant (c : Char) : Bool :=
  0x900 ≤ c.toNat && inBounds conjunctConsonants c.toNat

/-- Whether a character links conjunct consonants. -/
def isConjunctLinker (c : Char) : Bool :=
  0x900 ≤ c.toNat && inBounds conjunctLinkers c.toNat

/-- The conjunct after one more character. -/
def Conjunct.next (s : Conjunct) (c : Char) (k : ClusterClass) : Conjunct :=
  if isConjunctConsonant c then .consonant
  else if s = .none then .none
  else if isConjunctLinker c then .linked
  else if (k = .extender ∨ k = .joiner) ∧ c.toNat ≠ 0x200C then s
  else .none

/-- The state after a character of class `k`, from the state before it, if any. -/
def ClusterState.next (s : Option ClusterState) (c : Char) (k : ClusterClass) : ClusterState where
  last := k
  oddRegionals := k = .regional ∧ !(s.elim false ClusterState.oddRegionals)
  afterPictograph := k = .pictograph ∨ (k = .extender ∧ s.elim false ClusterState.afterPictograph)
  afterLink := k = .joiner ∧ s.elim false ClusterState.afterPictograph
  conjunct := (s.elim .none ClusterState.conjunct).next c k

/-- Whether a cluster ends between the characters read so far and the character `c` of class `k`. -/
def ClusterState.breaksBefore (s : ClusterState) (c : Char) (k : ClusterClass) : Bool :=
  match s.last, k with
  | .carriageReturn, .lineFeed => false
  | .control, _ | .carriageReturn, _ | .lineFeed, _ => true
  | _, .control | _, .carriageReturn | _, .lineFeed => true
  | .leadingJamo, .leadingJamo | .leadingJamo, .vowelJamo => false
  | .leadingJamo, .openSyllable | .leadingJamo, .closedSyllable => false
  | .openSyllable, .vowelJamo | .openSyllable, .trailingJamo => false
  | .vowelJamo, .vowelJamo | .vowelJamo, .trailingJamo => false
  | .closedSyllable, .trailingJamo | .trailingJamo, .trailingJamo => false
  | _, .extender | _, .joiner | _, .spacing => false
  | .prepender, _ => false
  | _, .pictograph => !s.afterLink
  | _, .regional => !s.oddRegionals
  | _, _ => !(s.conjunct = .linked && isConjunctConsonant c)

/-- The clusters of a text in front of those already found: `current` holds the open cluster and
`found` the closed ones, both in reverse. -/
def clustersOnto (found : List (List Char)) (current : List Char) (s : Option ClusterState) :
    List Char → List (List Char)
  | [] => (if current.isEmpty then found else current.reverse :: found).reverse
  | c :: rest =>
    let k := clusterClass c
    let s' := some (ClusterState.next s c k)
    if s.elim false (·.breaksBefore c k) then
      clustersOnto (current.reverse :: found) [c] s' rest
    else
      clustersOnto found (c :: current) s' rest

/-- The grapheme clusters of a text. -/
def clusters (cs : List Char) : List (List Char) :=
  clustersOnto [] [] none cs

theorem flatten_clustersOnto (found : List (List Char)) (current : List Char)
    (s : Option ClusterState) (cs : List Char) :
    (clustersOnto found current s cs).flatten = found.reverse.flatten ++ current.reverse ++ cs := by
  induction cs generalizing found current s with
  | nil =>
    unfold clustersOnto
    cases current <;> simp
  | cons c rest ih =>
    unfold clustersOnto
    dsimp only
    split
    · rw [ih]; simp
    · rw [ih]; simp

/-- Clusters lose and reorder nothing. -/
theorem flatten_clusters (cs : List Char) : (clusters cs).flatten = cs := by
  simp [clusters, flatten_clustersOnto]

end LineShell.Text
