import LineShell.Proofs.Arrivals
import LineShell.Proofs.Stream
import Mathlib.Data.List.Basic

/-!
# The lines of a script

A byte string is cut after every newline. A stream whose supply delivers nothing but bytes gives the
lines of these bytes, one read after another, and the end of input behind them, however the bytes
are cut into deliveries (`StreamSource.answers_lines`).
-/

namespace LineShell

/-- The byte in front of the newline in texts that end their lines with two bytes. -/
def carriageReturn : UInt8 := 13

/-- The lines of a byte string, each with its newline. The last one may have none. -/
def lines : Bytes → List Bytes
  | [] => []
  | c :: rest =>
    if c = newline then [c] :: lines rest
    else
      match lines rest with
      | [] => [[c]]
      | l :: ls => (c :: l) :: ls

theorem lines_newline (rest : Bytes) : lines (newline :: rest) = [newline] :: lines rest := by
  simp [lines]

/-- The lines together are the byte string. -/
theorem flatten_lines (b : Bytes) : (lines b).flatten = b := by
  induction b with
  | nil => rfl
  | cons c rest ih =>
    by_cases hc : c = newline
    · simp [lines, hc, ih]
    · simp only [lines, if_neg hc]
      cases hl : lines rest with
      | nil =>
        rw [hl] at ih
        simpa using ih
      | cons l ls =>
        rw [hl] at ih
        simpa using ih

/-- A line is not empty and holds a newline at most as its last byte. -/
theorem mem_lines {b l : Bytes} (hl : l ∈ lines b) : l ≠ [] ∧ newline ∉ l.dropLast := by
  induction b generalizing l with
  | nil => cases hl
  | cons c rest ih =>
    by_cases hc : c = newline
    · rw [hc, lines_newline] at hl
      rcases List.mem_cons.1 hl with rfl | hl
      · simp
      · exact ih hl
    · simp only [lines, if_neg hc] at hl
      cases hrest : lines rest with
      | nil =>
        rw [hrest] at hl
        rw [List.mem_singleton.1 hl]
        simp
      | cons first others =>
        rw [hrest] at hl ih
        rcases List.mem_cons.1 hl with rfl | hl
        · obtain ⟨hne, hlast⟩ := ih List.mem_cons_self
          rw [List.dropLast_cons_of_ne_nil hne]
          simp [Ne.symm hc, hlast]
        · exact ih (List.mem_cons_of_mem _ hl)

/-- Every line but the last one ends with its newline. -/
theorem getLast?_of_mem_dropLast {b l : Bytes} (hl : l ∈ (lines b).dropLast) :
    l.getLast? = some newline := by
  induction b generalizing l with
  | nil => cases hl
  | cons c rest ih =>
    cases hrest : lines rest with
    | nil => by_cases hc : c = newline <;> simp [lines, hc, hrest] at hl
    | cons first others =>
      rw [hrest] at ih
      by_cases hc : c = newline
      · rw [hc, lines_newline, hrest, List.dropLast_cons_of_ne_nil (by simp)] at hl
        rcases List.mem_cons.1 hl with rfl | hl
        · rfl
        · exact ih hl
      · simp only [lines, if_neg hc, hrest] at hl
        cases others with
        | nil => cases hl
        | cons second others =>
          rw [List.dropLast_cons_of_ne_nil (by simp)] at hl ih
          rcases List.mem_cons.1 hl with rfl | hl
          · have hfirst := ih List.mem_cons_self
            rw [List.getLast?_cons, hfirst]
            rfl
          · exact ih (List.mem_cons_of_mem _ hl)

/-- The first newline ends the first line. -/
theorem lines_append_newline {b : Bytes} (hb : newline ∉ b) (rest : Bytes) :
    lines (b ++ newline :: rest) = (b ++ [newline]) :: lines rest := by
  induction b with
  | nil => exact lines_newline rest
  | cons c b ih =>
    rw [List.mem_cons, not_or] at hb
    have hrest := ih hb.2
    simp only [List.cons_append, lines, if_neg (Ne.symm hb.1), hrest]

/-- Behind the end of a line a new one begins. -/
theorem lines_append {a : Bytes} (ha : a = [] ∨ a.getLast? = some newline) (b : Bytes) :
    lines (a ++ b) = lines a ++ lines b := by
  induction a with
  | nil => rfl
  | cons c a ih =>
    -- the first line of what is left of `a` is also the first one with `b` behind it
    have hrest : a ≠ [] → lines (a ++ b) = lines a ++ lines b := by
      intro hne
      refine ih (Or.inr ?_)
      rcases ha with ha | ha
      · cases ha
      · rwa [List.getLast?_cons_of_ne_nil hne] at ha
    by_cases hc : c = newline
    · rw [hc, List.cons_append, lines_newline, lines_newline]
      by_cases hne : a = []
      · rw [hne]
        rfl
      · rw [hrest hne, List.cons_append]
    · have hne : a ≠ [] := by
        rintro rfl
        simp [hc] at ha
      obtain ⟨first, others, hlines⟩ : ∃ first others, lines a = first :: others := by
        refine List.exists_cons_of_ne_nil fun hnil => hne ?_
        rw [← flatten_lines a, hnil]
        rfl
      simp only [List.cons_append, lines, if_neg hc, hrest hne, hlines]

/-- Bytes without a newline belong to the first line. -/
theorem lines_append_of_not_mem {b : Bytes} (hne : b ≠ []) (hb : newline ∉ b) (rest : Bytes) :
    lines (b ++ rest)
      = match lines rest with
        | [] => [b]
        | l :: ls => (b ++ l) :: ls := by
  induction b with
  | nil => exact absurd rfl hne
  | cons c b ih =>
    rw [List.mem_cons, not_or] at hb
    simp only [List.cons_append, lines, if_neg (Ne.symm hb.1)]
    cases b with
    | nil => rfl
    | cons d b =>
      rw [ih (by simp) hb.2]
      cases lines rest <;> rfl

theorem lines_of_not_mem {b : Bytes} (hne : b ≠ []) (hb : newline ∉ b) : lines b = [b] := by
  have happend := lines_append_of_not_mem hne hb []
  rwa [List.append_nil] at happend

/-- The way byte strings stand as the lines of one: each holds a newline at most as its last byte,
and only the last one may be without. -/
structure AreLines (ls : List Bytes) : Prop where
  ne_nil : ∀ l ∈ ls, l ≠ []
  newline_notMem : ∀ l ∈ ls, newline ∉ l.dropLast
  ends : ∀ l ∈ ls.dropLast, l.getLast? = some newline

theorem areLines_lines (b : Bytes) : AreLines (lines b) where
  ne_nil _ hl := (mem_lines hl).1
  newline_notMem _ hl := (mem_lines hl).2
  ends _ hl := getLast?_of_mem_dropLast hl

/-- Lines put together are cut into the same lines again. -/
theorem AreLines.lines_flatten {ls : List Bytes} (hls : AreLines ls) : lines ls.flatten = ls := by
  induction ls with
  | nil => rfl
  | cons l ls ih =>
    have hne := hls.ne_nil l List.mem_cons_self
    have hfront := hls.newline_notMem l List.mem_cons_self
    have hsplit := List.dropLast_append_getLast hne
    cases ls with
    | nil =>
      rw [List.flatten_cons, List.flatten_nil, List.append_nil]
      by_cases hlast : l.getLast hne = newline
      · rw [hlast] at hsplit
        rw [← hsplit]
        exact lines_append_newline hfront []
      · refine lines_of_not_mem hne ?_
        rw [← hsplit]
        simp [hfront, Ne.symm hlast]
    | cons second ls =>
      have hmore : l ∈ (l :: second :: ls).dropLast := by simp
      have hlast : l.getLast hne = newline := by
        have hend := hls.ends l hmore
        rw [List.getLast?_eq_some_getLast hne] at hend
        exact Option.some.inj hend
      have hrest : AreLines (second :: ls) :=
        { ne_nil := fun x hx => hls.ne_nil x (List.mem_cons_of_mem l hx)
          newline_notMem := fun x hx => hls.newline_notMem x (List.mem_cons_of_mem l hx)
          ends := fun x hx => hls.ends x (by
            rw [List.dropLast_cons_of_ne_nil (by simp)]
            exact List.mem_cons_of_mem l hx) }
      rw [hlast] at hsplit
      rw [List.flatten_cons, ← hsplit, List.append_assoc, List.singleton_append,
        lines_append_newline hfront, ih hrest]

/-- A line may be taken out. -/
theorem AreLines.delete {ls ls' : List Bytes} {l : Bytes} (h : AreLines (ls ++ l :: ls')) :
    AreLines (ls ++ ls') := by
  have hsub : (ls ++ ls').Sublist (ls ++ l :: ls') :=
    (List.Sublist.refl ls).append (List.sublist_cons_self l ls')
  refine { ne_nil := ?_, newline_notMem := ?_, ends := ?_ }
  · intro x hx
    exact h.ne_nil x (hsub.subset hx)
  · intro x hx
    exact h.newline_notMem x (hsub.subset hx)
  · intro x hx
    refine h.ends x ?_
    rw [List.dropLast_append_of_ne_nil (by simp)]
    cases ls' with
    | nil =>
      rw [List.append_nil] at hx
      exact List.mem_append_left _ ((List.dropLast_sublist ls).subset hx)
    | cons second ls' =>
      rw [List.dropLast_append_of_ne_nil (by simp)] at hx
      rw [List.dropLast_cons_of_ne_nil (by simp)]
      rcases List.mem_append.1 hx with hx | hx
      · exact List.mem_append_left _ hx
      · exact List.mem_append_right _ (List.mem_cons_of_mem l hx)

example : lines (utf8 "ls\n\ncd") = [utf8 "ls\n", utf8 "\n", utf8 "cd"] := by decide

/-- Of bytes alone the first line is taken, and the bytes of the other lines are left. -/
theorem takeLine_map_byte (b got : Bytes) :
    match lines b with
    | [] => takeLine got (b.map .byte) = (lineAtEnd got, [])
    | l :: ls =>
      ∃ rest, takeLine got (b.map .byte) = (.line (got.reverse ++ l), rest.map .byte) ∧
        lines rest = ls := by
  induction b generalizing got with
  | nil => rfl
  | cons c rest ih =>
    by_cases hc : c = newline
    · rw [hc, lines_newline]
      exact ⟨rest, by simp [takeLine], rfl⟩
    · have hrest := ih (c :: got)
      simp only [lines, if_neg hc, List.map_cons, takeLine]
      cases hl : lines rest with
      | nil =>
        rw [hl] at hrest
        exact ⟨[], by rw [hrest]; simp [lineAtEnd], rfl⟩
      | cons l ls =>
        rw [hl] at hrest
        obtain ⟨left, hleft, hls⟩ := hrest
        exact ⟨left, by rw [hleft]; simp, hls⟩

namespace Delivery

/-- The bytes that a delivery brings. -/
def content : Delivery → Bytes
  | bytes b => b
  | fault _ => []

/-- Whether a delivery is neither an end of file nor a fault, other than an interruption. -/
def isUndisturbed : Delivery → Bool
  | bytes b => !b.isEmpty
  | fault f => f.isInterruption

theorem arrivals_eq_content {d : Delivery} (hd : d.isUndisturbed = true) :
    d.arrivals = d.content.map .byte := by
  cases d with
  | bytes b => exact Supply.arrivals_bytes (by simpa [isUndisturbed] using hd)
  | fault f => exact if_pos hd

end Delivery

namespace Supply

/-- The bytes that a supply has still to give. -/
def content (s : Supply) : Bytes :=
  s.buffer ++ s.script.flatMap Delivery.content

/-- Nothing but bytes arrives, as long as there are any. -/
def Undisturbed (s : Supply) : Prop :=
  ∀ d ∈ s.script, d.isUndisturbed = true

instance : DecidablePred Undisturbed := fun s =>
  inferInstanceAs (Decidable (∀ d ∈ s.script, d.isUndisturbed = true))

theorem arrivals_eq_content {s : Supply} (hs : s.Undisturbed) :
    s.arrivals = s.content.map .byte := by
  have hscript : ∀ d ∈ s.script, d.arrivals = d.content.map Arrival.byte :=
    fun d hd => Delivery.arrivals_eq_content (hs d hd)
  rw [arrivals, content, List.map_append, List.map_flatMap, scriptArrivals,
    List.flatMap_congr hscript]

/-- Line by line, the lines of the bytes that arrive are read. -/
theorem readLine_afterLines {s : Supply} {b : Bytes} (hc : 0 < s.capacity)
    (hb : s.arrivals = b.map .byte) (n : Nat) :
    (s.afterLines n).readLine.1 = ((lines b).map .line).getD n .endOfInput := by
  induction n generalizing s b with
  | zero =>
    have htake := takeLine_map_byte b []
    rw [afterLines, readLine_eq_takeLine hc, hb]
    cases hl : lines b with
    | nil =>
      rw [hl] at htake
      rw [htake]
      rfl
    | cons l ls =>
      rw [hl] at htake
      obtain ⟨rest, htake, _⟩ := htake
      rw [htake]
      rfl
  | succ n ih =>
    have htake := takeLine_map_byte b []
    have hleft := arrivals_readLine hc
    rw [hb] at hleft
    have hcapacity : 0 < s.readLine.2.capacity := by
      rw [capacity_readLine hc]
      exact hc
    cases hl : lines b with
    | nil =>
      rw [hl] at htake
      rw [htake] at hleft
      rw [afterLines, ih hcapacity (b := []) hleft]
      rfl
    | cons l ls =>
      rw [hl] at htake
      obtain ⟨rest, htake, hls⟩ := htake
      rw [htake] at hleft
      rw [afterLines, ih hcapacity hleft, hls]
      rfl

/-- A supply delivers a byte string, in pieces of any size, and nothing else. -/
structure Delivers (s : Supply) (b : Bytes) : Prop where
  capacity_pos : 0 < s.capacity
  undisturbed : s.Undisturbed
  content : s.content = b

theorem Delivers.readLine_afterLines {s : Supply} {b : Bytes} (hs : s.Delivers b) (n : Nat) :
    (s.afterLines n).readLine.1 = ((lines b).map .line).getD n .endOfInput := by
  have harrivals := arrivals_eq_content hs.undisturbed
  rw [hs.content] at harrivals
  exact Supply.readLine_afterLines hs.capacity_pos harrivals n

end Supply

/-- A stream over an undisturbed supply answers with the lines of its bytes. -/
theorem StreamSource.answers_lines {s : StreamSource} (hc : 0 < s.supply.capacity)
    (hs : s.supply.Undisturbed) :
    LineReader.Answers s ((lines s.supply.content).map .line) := by
  intro n
  rw [StreamSource.result_eq]
  exact Supply.readLine_afterLines hc (Supply.arrivals_eq_content hs) n

end LineShell
