import LineShell.Words.Slots
import Mathlib.Data.List.Basic

/-!
# Layouts of words

A layout writes words behind one another as a line: a run of delimiters in front of the first word
and one behind every word. The first and the last of these runs may be empty, the ones between two
words may not. Every line is written by exactly one layout, and cutting the line gives the words of
this layout (`tokenize_gives_words_of_layout`).
-/

namespace LineShell

/-! ## Words around a delimiter -/

theorem words_append_delimiter {d : UInt8} (hd : isDelimiter d = true) (a b : Bytes) :
    words (a ++ d :: b) = words a ++ words b := by
  rw [words, linePieces, List.splitOnP_append_cons a b hd, List.filter_append]
  rfl

theorem words_cons_delimiter {d : UInt8} (hd : isDelimiter d = true) (b : Bytes) :
    words (d :: b) = words b := by
  have happend := words_append_delimiter hd [] b
  rw [List.nil_append] at happend
  rw [happend]
  rfl

/-- A run of delimiters. -/
def IsGap (b : Bytes) : Prop :=
  ∀ c ∈ b, isDelimiter c = true

/-- At least one byte, and no delimiter. -/
structure IsWord (w : Bytes) : Prop where
  ne_nil : w ≠ []
  isDelimiter_eq_false : ∀ c ∈ w, isDelimiter c = false

theorem isGap_nil : IsGap [] :=
  List.forall_mem_nil _

theorem isWord_singleton {c : UInt8} (hc : isDelimiter c = false) : IsWord [c] where
  ne_nil := List.cons_ne_nil c []
  isDelimiter_eq_false := by simpa using hc

theorem IsWord.cons {w : Bytes} (hw : IsWord w) {c : UInt8} (hc : isDelimiter c = false) :
    IsWord (c :: w) where
  ne_nil := List.cons_ne_nil c w
  isDelimiter_eq_false := List.forall_mem_cons.2 ⟨hc, hw.isDelimiter_eq_false⟩

theorem words_append_of_isGap {g : Bytes} (hg : IsGap g) (b : Bytes) :
    words (g ++ b) = words b := by
  induction g with
  | nil => rfl
  | cons d g ih =>
    have hrest : IsGap g := fun c hc => hg c (List.mem_cons_of_mem d hc)
    rw [List.cons_append, words_cons_delimiter (hg d List.mem_cons_self), ih hrest]

theorem words_of_isWord {w : Bytes} (hw : IsWord w) : words w = [w] := by
  have hpieces : linePieces w = [w] := List.splitOnP_eq_singleton hw.isDelimiter_eq_false
  rw [words, hpieces]
  simp [hw.ne_nil]

/-! ## Layouts -/

/-- Words and the runs of delimiters around them. -/
structure Layout where
  /-- What stands in front of the first word. -/
  front : Bytes
  /-- Every word with what stands behind it. -/
  parts : List (Bytes × Bytes)

namespace Layout

/-- The words, in order. -/
def words (l : Layout) : List Bytes :=
  l.parts.map Prod.fst

/-- What stands behind the words, in order. -/
def gaps (l : Layout) : List Bytes :=
  l.parts.map Prod.snd

/-- The line that a layout writes. -/
def line (l : Layout) : Bytes :=
  l.front ++ l.parts.flatMap fun p => p.1 ++ p.2

/-- Delimiters stand around the words and nowhere else, and at least one of them stands between two
words. -/
structure Proper (l : Layout) : Prop where
  isGap_front : IsGap l.front
  isWord : ∀ w ∈ l.words, IsWord w
  isGap : ∀ g ∈ l.gaps, IsGap g
  ne_nil : ∀ g ∈ l.gaps.dropLast, g ≠ []

theorem line_mk_cons (f w g : Bytes) (ps : List (Bytes × Bytes)) :
    line ⟨f, (w, g) :: ps⟩ = f ++ (w ++ (g ++ line ⟨[], ps⟩)) := by
  simp [line]

theorem proper_nil_iff {f : Bytes} : Proper ⟨f, []⟩ ↔ IsGap f := by
  constructor
  · intro h
    exact h.isGap_front
  · intro hf
    exact { isGap_front := hf
            isWord := List.forall_mem_nil _
            isGap := List.forall_mem_nil _
            ne_nil := List.forall_mem_nil _ }

theorem proper_cons_iff {f w g : Bytes} {ps : List (Bytes × Bytes)} :
    Proper ⟨f, (w, g) :: ps⟩
      ↔ IsGap f ∧ IsWord w ∧ IsGap g ∧ (ps ≠ [] → g ≠ []) ∧ Proper ⟨[], ps⟩ := by
  constructor
  · rintro ⟨hf, hword, hgap, hne⟩
    have hword' := List.forall_mem_cons.1 hword
    have hgap' := List.forall_mem_cons.1 hgap
    cases ps with
    | nil => exact ⟨hf, hword'.1, hgap'.1, fun h => absurd rfl h, proper_nil_iff.2 isGap_nil⟩
    | cons p ps =>
      have hne' := List.forall_mem_cons.1 hne
      exact ⟨hf, hword'.1, hgap'.1, fun _ => hne'.1,
        { isGap_front := isGap_nil, isWord := hword'.2, isGap := hgap'.2, ne_nil := hne'.2 }⟩
  · rintro ⟨hf, hw, hg, hne, hrest⟩
    refine { isGap_front := hf
             isWord := List.forall_mem_cons.2 ⟨hw, hrest.isWord⟩
             isGap := List.forall_mem_cons.2 ⟨hg, hrest.isGap⟩
             ne_nil := ?_ }
    cases ps with
    | nil => exact List.forall_mem_nil _
    | cons p ps => exact List.forall_mem_cons.2 ⟨hne (List.cons_ne_nil p ps), hrest.ne_nil⟩

/-- Cutting the line that a layout writes gives the words of the layout. -/
theorem words_line {l : Layout} (hl : l.Proper) : LineShell.words l.line = l.words := by
  obtain ⟨f, ps⟩ := l
  induction ps generalizing f with
  | nil =>
    rw [line, List.flatMap_nil, words_append_of_isGap hl.isGap_front]
    rfl
  | cons p ps ih =>
    obtain ⟨w, g⟩ := p
    obtain ⟨hf, hw, hg, hne, hrest⟩ := proper_cons_iff.1 hl
    have hwords := ih [] hrest
    rw [line_mk_cons, words_append_of_isGap hf]
    cases g with
    | cons d g =>
      have hd : isDelimiter d = true := hg d List.mem_cons_self
      have hg' : IsGap g := fun c hc => hg c (List.mem_cons_of_mem d hc)
      rw [List.cons_append, words_append_delimiter hd, words_append_of_isGap hg', hwords,
        words_of_isWord hw]
      rfl
    | nil =>
      -- with no delimiter behind it, the word is the last one
      have hps : ps = [] := by
        by_contra h
        exact hne h rfl
      subst hps
      have hline : w ++ ([] ++ line ⟨[], []⟩) = w := by simp [line]
      rw [hline, words_of_isWord hw]
      rfl

/-! ## The layout of a line -/

/-- The layout with one more byte in front. -/
def cons (c : UInt8) (l : Layout) : Layout :=
  if isDelimiter c then { l with front := c :: l.front }
  else
    match l.front, l.parts with
    | [], (w, g) :: parts => ⟨[], (c :: w, g) :: parts⟩
    | front, parts => ⟨[], ([c], front) :: parts⟩

/-- The layout that writes a line. -/
def ofLine (b : Bytes) : Layout :=
  b.foldr cons ⟨[], []⟩

theorem cons_of_isDelimiter {c : UInt8} (hc : isDelimiter c = true) (l : Layout) :
    cons c l = ⟨c :: l.front, l.parts⟩ :=
  if_pos hc

/-- A byte that is no delimiter joins a word right behind it. -/
theorem cons_of_word {c : UInt8} (hc : isDelimiter c = false) (w g : Bytes)
    (ps : List (Bytes × Bytes)) : cons c ⟨[], (w, g) :: ps⟩ = ⟨[], (c :: w, g) :: ps⟩ := by
  simp [cons, hc]

/-- Anywhere else it begins a word. -/
theorem cons_of_gap {c : UInt8} (hc : isDelimiter c = false) {l : Layout}
    (hl : l.parts ≠ [] → l.front ≠ []) : cons c l = ⟨[], ([c], l.front) :: l.parts⟩ := by
  obtain ⟨f, ps⟩ := l
  cases f with
  | cons d f => simp [cons, hc]
  | nil =>
    have hps : ps = [] := by
      by_contra h
      exact hl h rfl
    subst hps
    simp [cons, hc]

/-- One more byte in front of a layout is one more byte in front of its line. -/
theorem Proper.cons {l : Layout} (hl : l.Proper) (c : UInt8) :
    (cons c l).Proper ∧ (cons c l).line = c :: l.line := by
  cases hc : isDelimiter c with
  | true =>
    rw [cons_of_isDelimiter hc]
    refine ⟨{ isGap_front := ?_, isWord := hl.isWord, isGap := hl.isGap, ne_nil := hl.ne_nil }, rfl⟩
    exact List.forall_mem_cons.2 ⟨hc, hl.isGap_front⟩
  | false =>
    by_cases hgap : l.parts ≠ [] → l.front ≠ []
    · rw [cons_of_gap hc hgap, line_mk_cons, proper_cons_iff]
      obtain ⟨f, ps⟩ := l
      refine ⟨⟨isGap_nil, isWord_singleton hc, hl.isGap_front, hgap, ?_⟩, by simp [line]⟩
      exact
        { isGap_front := isGap_nil
          isWord := hl.isWord
          isGap := hl.isGap
          ne_nil := hl.ne_nil }
    · obtain ⟨f, ps⟩ := l
      rw [Classical.not_imp, not_not] at hgap
      obtain ⟨hps, hf⟩ := hgap
      obtain ⟨⟨w, g⟩, ps', rfl⟩ := List.exists_cons_of_ne_nil hps
      obtain rfl : f = [] := hf
      rw [cons_of_word hc, line_mk_cons, line_mk_cons, proper_cons_iff]
      obtain ⟨_, hw, hg, hne, hrest⟩ := proper_cons_iff.1 hl
      exact ⟨⟨isGap_nil, hw.cons hc, hg, hne, hrest⟩, rfl⟩

theorem proper_ofLine (b : Bytes) : (ofLine b).Proper ∧ (ofLine b).line = b := by
  induction b with
  | nil => exact ⟨proper_nil_iff.2 isGap_nil, rfl⟩
  | cons c b ih =>
    obtain ⟨hproper, hline⟩ := ih.1.cons c
    refine ⟨hproper, ?_⟩
    rw [ih.2] at hline
    exact hline

theorem ofLine_append_of_isGap {g : Bytes} (hg : IsGap g) (b : Bytes) :
    ofLine (g ++ b) = ⟨g ++ (ofLine b).front, (ofLine b).parts⟩ := by
  induction g with
  | nil => rfl
  | cons d g ih =>
    have hrest : IsGap g := fun c hc => hg c (List.mem_cons_of_mem d hc)
    have hcons : ofLine (d :: g ++ b) = cons d (ofLine (g ++ b)) := rfl
    rw [hcons, ih hrest, cons_of_isDelimiter (hg d List.mem_cons_self)]
    rfl

theorem ofLine_append_of_isWord {w : Bytes} (hw : IsWord w) {b : Bytes}
    (hb : (ofLine b).parts ≠ [] → (ofLine b).front ≠ []) :
    ofLine (w ++ b) = ⟨[], (w, (ofLine b).front) :: (ofLine b).parts⟩ := by
  obtain ⟨hne, hbytes⟩ := hw
  induction w with
  | nil => exact absurd rfl hne
  | cons c w ih =>
    obtain ⟨hc, hrest⟩ := List.forall_mem_cons.1 hbytes
    have hcons : ofLine (c :: w ++ b) = cons c (ofLine (w ++ b)) := rfl
    rw [hcons]
    by_cases hw : w = []
    · subst hw
      exact cons_of_gap hc hb
    · rw [ih hw hrest, cons_of_word hc]

theorem ofLine_line {l : Layout} (hl : l.Proper) : ofLine l.line = l := by
  obtain ⟨f, ps⟩ := l
  induction ps generalizing f with
  | nil => rw [line, ofLine_append_of_isGap hl.isGap_front, List.flatMap_nil]; simp [ofLine]
  | cons p ps ih =>
    obtain ⟨w, g⟩ := p
    obtain ⟨hf, hw, hg, hne, hrest⟩ := proper_cons_iff.1 hl
    have hbehind : ofLine (g ++ line ⟨[], ps⟩) = ⟨g, ps⟩ := by
      rw [ofLine_append_of_isGap hg, ih [] hrest, List.append_nil]
    rw [line_mk_cons, ofLine_append_of_isGap hf, ofLine_append_of_isWord hw (by rwa [hbehind]),
      hbehind, List.append_nil]

theorem words_ofLine (b : Bytes) : (ofLine b).words = LineShell.words b := by
  obtain ⟨hproper, hline⟩ := proper_ofLine b
  rw [← words_line hproper, hline]

end Layout

/-- What cutting a line gives are words. -/
theorem isWord_of_mem_words {b w : Bytes} (hw : w ∈ words b) : IsWord w := by
  rw [← Layout.words_ofLine] at hw
  exact (Layout.proper_ofLine b).1.isWord w hw

theorem words_eq_nil_iff {b : Bytes} : words b = [] ↔ IsGap b := by
  constructor
  · intro h
    obtain ⟨hproper, hline⟩ := Layout.proper_ofLine b
    have hparts : (Layout.ofLine b).parts = [] := by
      rw [← Layout.words_ofLine] at h
      exact List.map_eq_nil_iff.1 h
    rw [Layout.line, hparts, List.flatMap_nil, List.append_nil] at hline
    rw [← hline]
    exact hproper.isGap_front
  · intro h
    have happend := words_append_of_isGap h []
    rw [List.append_nil] at happend
    rw [happend]
    rfl

/-- Words one behind another, each with a space behind it. -/
theorem Layout.proper_spaced {ws : List Bytes} (hws : ∀ w ∈ ws, IsWord w) :
    Proper ⟨[], ws.map fun w => (w, [32])⟩ := by
  have hspace : IsGap [32] := List.forall_mem_singleton.2 (by decide)
  induction ws with
  | nil => exact proper_nil_iff.2 isGap_nil
  | cons w ws ih =>
    obtain ⟨hw, hrest⟩ := List.forall_mem_cons.1 hws
    exact proper_cons_iff.2 ⟨isGap_nil, hw, hspace, fun _ => List.cons_ne_nil 32 [], ih hrest⟩

theorem exists_words_eq_iff {ws : List Bytes} : (∃ b, words b = ws) ↔ ∀ w ∈ ws, IsWord w := by
  constructor
  · rintro ⟨b, rfl⟩ w hw
    exact isWord_of_mem_words hw
  · intro hws
    refine ⟨_, (Layout.words_line (Layout.proper_spaced hws)).trans ?_⟩
    rw [Layout.words, List.map_map]
    exact List.map_id ws

/-- **Cutting a line undoes writing it.** The words that a line is cut into are those of a layout
that writes it, and every line is written by one layout and no other. A line is cut into no words if
and only if it holds nothing but delimiters. What a line can be cut into is any number of words of
any length, of all bytes but the five delimiters. -/
theorem tokenize_gives_words_of_layout (line : Bytes) :
    (∀ ws, tokenize line = ws ↔ ∃ l : Layout, l.Proper ∧ l.line = line ∧ l.words = ws) ∧
    (∃! l : Layout, l.Proper ∧ l.line = line) ∧
    (tokenize line = [] ↔ ∀ c ∈ line, isDelimiter c = true) ∧
    (∀ ws, (∃ b, tokenize b = ws) ↔ ∀ w ∈ ws, IsWord w) ∧
    ∀ c, isDelimiter c = true ↔ c = 32 ∨ c = 9 ∨ c = 13 ∨ c = 10 ∨ c = 7 := by
  obtain ⟨hproper, hline⟩ := Layout.proper_ofLine line
  simp only [tokenize_eq_words]
  refine ⟨fun ws => ⟨?_, ?_⟩, ?_, words_eq_nil_iff, fun ws => exists_words_eq_iff, fun c => ?_⟩
  · rintro rfl
    exact ⟨Layout.ofLine line, hproper, hline, Layout.words_ofLine line⟩
  · rintro ⟨l, hl, rfl, rfl⟩
    exact Layout.words_line hl
  · refine ⟨Layout.ofLine line, ⟨hproper, hline⟩, ?_⟩
    rintro l ⟨hl, rfl⟩
    exact (Layout.ofLine_line hl).symm
  · simp [isDelimiter, delimiters]

/-- Vertical tabs, form feeds, zero bytes and bytes that are no text belong to words. -/
example : tokenize ([32, 7] ++ utf8 "cd" ++ [9, 13, 97, 11, 12, 0, 233, 10])
    = [utf8 "cd", [97, 11, 12, 0, 233]] := by decide

end LineShell
