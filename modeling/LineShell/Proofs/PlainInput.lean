import LineShell.Editor.Plain
import LineShell.Proofs.Encoding
import LineShell.Proofs.SameWords
import Mathlib.Data.List.Forall2

/-!
# Plain text from an editor and from a stream

An editor whose input is not from a terminal takes the ends of lines off, a stream leaves them on.
On a well-formed text without backspaces the two give lines with the same words, read by read, and a
loop does the same over either of them (`plainEditor_agrees_with_stream`).
-/

namespace LineShell

/-! ## Results with the same words -/

/-- Two results of reads are both the end of the input, or both lines with the same words. -/
inductive ReadResult.SameWords : ReadResult → ReadResult → Prop where
  | endOfInput : SameWords .endOfInput .endOfInput
  | line {b c : Bytes} (hwords : tokenize b = tokenize c) : SameWords (.line b) (.line c)

namespace ReadResult.SameWords

variable {r r' : ReadResult}

theorem stop?_eq (h : SameWords r r') : r.stop? = r'.stop? := by
  cases h with
  | endOfInput => rfl
  | line hwords => simp only [ReadResult.stop?, hwords]

theorem words?_eq (h : SameWords r r') : r.words? = r'.words? := by
  cases h with
  | endOfInput => rfl
  | line hwords => exact congrArg some hwords

theorem nextState_eq (h : SameWords r r') : r.nextState = r'.nextState := by
  cases h with
  | endOfInput => rfl
  | line hwords => simp only [ReadResult.nextState, hwords]

theorem stops_iff (h : SameWords r r') : r.Stops ↔ r'.Stops := by
  rw [ReadResult.stops_iff_exists_stop, ReadResult.stops_iff_exists_stop, h.stop?_eq]

end ReadResult.SameWords

/-! ## Lines without their ends -/

namespace Editor

/-- What is taken off a line is nothing, a newline, or a newline and the carriage return in front of
it. -/
theorem exists_lineEnd (cs : List Char) :
    ∃ ending, cs = withoutLineEnd cs ++ ending ∧
      (ending = [] ∨ ending = ['\n'] ∨ ending = ['\r', '\n']) := by
  unfold withoutLineEnd
  split
  · next rest hrev =>
    refine ⟨['\r', '\n'], ?_, Or.inr (Or.inr rfl)⟩
    rw [← List.reverse_reverse cs, hrev]
    simp
  · next rest _ hrev =>
    refine ⟨['\n'], ?_, Or.inr (Or.inl rfl)⟩
    rw [← List.reverse_reverse cs, hrev]
    simp
  · exact ⟨[], by simp, Or.inl rfl⟩

/-- The end of a line is made of delimiters. -/
theorem words_withoutLineEnd (cs : List Char) :
    words (encode (withoutLineEnd cs)) = words (encode cs) := by
  obtain ⟨ending, hcs, hending⟩ := exists_lineEnd cs
  have hnewline : isDelimiter newline = true := by decide
  have hreturn : isDelimiter carriageReturn = true := by decide
  have hnone : words [] = [] := rfl
  have hencode : encode cs = encode (withoutLineEnd cs) ++ encode ending := by
    rw [← encode_append, ← hcs]
  rw [hencode]
  rcases hending with rfl | rfl | rfl
  · rw [encode_nil, List.append_nil]
  · have hbytes : encode ['\n'] = [newline] := by decide
    rw [hbytes, words_append_delimiter hnewline, hnone, List.append_nil]
  · have hbytes : encode ['\r', '\n'] = [carriageReturn, newline] := by decide
    rw [hbytes, words_append_delimiter hreturn, words_cons_delimiter hnewline, hnone,
      List.append_nil]

/-- Without backspaces a line is entered as it stands, but for its end. -/
theorem enteredLine_of_not_mem {cs : List Char} (hcs : '\x08' ∉ cs) :
    enteredLine cs = withoutLineEnd cs := by
  obtain ⟨ending, hsplit, _⟩ := exists_lineEnd cs
  have hnot : '\x08' ∉ withoutLineEnd cs := by
    intro hmem
    rw [hsplit] at hcs
    exact hcs (List.mem_append_left _ hmem)
  rw [enteredLine, withoutBackspaces, if_neg hnot]

end Editor

/-! ## Reads of an editor -/

/-- What the shell gets for the result of a use of its editor. -/
def EditorResult.forShell : EditorResult → ReadResult
  | line cs => .line (encode cs)
  | interrupted => .line []
  | endOfInput => .endOfInput
  | failed cause => .failed cause
  | broken reason => .failed (.other reason)

section Composed

variable {ε : Type} [LineComposer ε]

theorem EditorSource.result_ofComposed (act : Act EditorResult ε) :
    (ofComposed act).result = act.result.forShell := by
  unfold ofComposed
  split
  · next cs hr =>
    rw [hr]
    split <;> rfl
  all_goals
    next hr => rw [hr]; rfl

theorem EditorSource.result_readLine (text : Bytes) (x : EditorSource ε) :
    (LineReader.readLine text x).result = (LineComposer.compose text x.editor).result.forShell :=
  result_ofComposed _

/-- The shell leaves the editor as it is, or adds to its history. -/
theorem EditorSource.editor_ofComposed (act : Act EditorResult ε) :
    (ofComposed act).after.editor = act.after ∨
      ∃ entry, (ofComposed act).after.editor = LineComposer.remember entry act.after := by
  unfold ofComposed
  split
  · next cs _ =>
    split
    · exact Or.inl rfl
    · exact Or.inr ⟨cs, rfl⟩
  all_goals exact Or.inl rfl

end Composed

/-! ## Editors that enter a text line by line -/

namespace Editor

/-- What is assumed of an editor whose input is not from a terminal. Let `ahead e cs` say that `cs`
is the text that its input has still to give. The editor enters the first line of it, without its
end and with its backspaces carried out, and gets to the text behind this line; when nothing is left
it is at the end of its input. Its history is no part of the input. -/
structure EntersLines {ε : Type} [LineComposer ε] (ahead : ε → List Char → Prop) : Prop where
  line {e : ε} {cs : List Char} (he : ahead e cs) (hcs : cs ≠ []) (prompt : Bytes) :
    (LineComposer.compose prompt e).result = .line (enteredLine (firstLine cs).1) ∧
      ahead (LineComposer.compose prompt e).after (firstLine cs).2
  endOfInput {e : ε} (he : ahead e []) (prompt : Bytes) :
    (LineComposer.compose prompt e).result = .endOfInput ∧
      ahead (LineComposer.compose prompt e).after []
  remember {e : ε} {cs : List Char} (he : ahead e cs) (entry : List Char) :
    ahead (LineComposer.remember entry e) cs

namespace EntersLines

variable {ε : Type} [LineComposer ε] {ahead : ε → List Char → Prop} (hahead : EntersLines ahead)
  {x : EditorSource ε}

include hahead

theorem ahead_ofComposed {act : Act EditorResult ε} {cs : List Char} (hact : ahead act.after cs) :
    ahead (EditorSource.ofComposed act).after.editor cs := by
  rcases EditorSource.editor_ofComposed act with hafter | ⟨entry, hafter⟩
  · rw [hafter]
    exact hact
  · rw [hafter]
    exact hahead.remember hact entry

theorem readLine {cs : List Char} (hx : ahead x.editor cs) (hcs : cs ≠ []) (text : Bytes) :
    (LineReader.readLine text x).result = .line (encode (enteredLine (firstLine cs).1)) ∧
      ahead (LineReader.readLine text x).after.editor (firstLine cs).2 := by
  obtain ⟨hresult, hafter⟩ := hahead.line hx hcs text
  refine ⟨?_, hahead.ahead_ofComposed hafter⟩
  rw [EditorSource.result_readLine, hresult]
  rfl

theorem readLine_nil (hx : ahead x.editor []) (text : Bytes) :
    (LineReader.readLine text x).result = .endOfInput ∧
      ahead (LineReader.readLine text x).after.editor [] := by
  obtain ⟨hresult, hafter⟩ := hahead.endOfInput hx text
  refine ⟨?_, hahead.ahead_ofComposed hafter⟩
  rw [EditorSource.result_readLine, hresult]
  rfl

end EntersLines

end Editor

/-! ## A text, line by line -/

namespace Supply

/-- Of a supply a text arrives, and nothing else. -/
structure Gives (s : Supply) (cs : List Char) : Prop where
  capacity_pos : 0 < s.capacity
  arrivals : s.arrivals = (encode cs).map .byte

variable {s : Supply} {cs : List Char}

theorem Delivers.gives (hs : s.Delivers (encode cs)) : s.Gives cs where
  capacity_pos := hs.capacity_pos
  arrivals := by rw [arrivals_eq_content hs.undisturbed, hs.content]

/-- The first line is read, and the text behind it is left. -/
theorem Gives.readLine (hs : s.Gives cs) (hcs : cs ≠ []) :
    s.readLine.1 = .line (encode (firstLine cs).1) ∧ s.readLine.2.Gives (firstLine cs).2 := by
  have htake := takeLine_map_byte (encode cs) []
  rw [lines_encode hcs] at htake
  obtain ⟨rest, htake, hrest⟩ := htake
  have hbehind : rest = encode (firstLine cs).2 := by
    rw [← flatten_lines rest, hrest, flatten_lines]
  refine ⟨?_, { capacity_pos := ?_, arrivals := ?_ }⟩
  · rw [readLine_eq_takeLine hs.capacity_pos, hs.arrivals, htake]
    rfl
  · rw [capacity_readLine hs.capacity_pos]
    exact hs.capacity_pos
  · rw [arrivals_readLine hs.capacity_pos, hs.arrivals, htake, hbehind]

theorem Gives.readLine_nil (hs : s.Gives []) :
    s.readLine.1 = .endOfInput ∧ s.readLine.2.Gives [] := by
  refine ⟨?_, { capacity_pos := ?_, arrivals := ?_ }⟩
  · rw [readLine_eq_takeLine hs.capacity_pos, hs.arrivals]
    rfl
  · rw [capacity_readLine hs.capacity_pos]
    exact hs.capacity_pos
  · rw [arrivals_readLine hs.capacity_pos, hs.arrivals]
    rfl

end Supply

namespace Editor

/-- A line of a text is entered with the words that it has on a stream. -/
theorem sameWords_enteredLine {ds : List Char} (hds : '\x08' ∉ ds) :
    ReadResult.SameWords (.line (encode (enteredLine ds))) (.line (encode ds)) := by
  rw [enteredLine_of_not_mem hds]
  refine .line ?_
  rw [tokenize_eq_words, tokenize_eq_words, words_withoutLineEnd]

/-- Read by read, the lines of a text have the same words. -/
theorem EntersLines.readEach {ε : Type} [LineComposer ε] {ahead : ε → List Char → Prop}
    (hahead : EntersLines ahead) {cs : List Char} (hcs : '\x08' ∉ cs) {x : EditorSource ε}
    (hx : ahead x.editor cs) {s : Supply} (hs : s.Gives cs) (texts : List Bytes) :
    List.Forall₂ ReadResult.SameWords (LineReader.readEach texts x).result
      (s.firstLines texts.length) := by
  induction texts generalizing x s cs with
  | nil => exact .nil
  | cons text texts ih =>
    by_cases hnil : cs = []
    · rw [hnil] at hx hs
      obtain ⟨hresult, hleft⟩ := hahead.readLine_nil hx text
      obtain ⟨hline, hrest⟩ := hs.readLine_nil
      simp only [LineReader.readEach, List.length_cons, Supply.firstLines, hresult, hline]
      exact .cons .endOfInput (ih List.not_mem_nil hleft hrest)
    · obtain ⟨hresult, hleft⟩ := hahead.readLine hx hnil text
      obtain ⟨hline, hrest⟩ := hs.readLine hnil
      rw [← firstLine_append cs, List.mem_append, not_or] at hcs
      simp only [LineReader.readEach, List.length_cons, Supply.firstLines, hresult, hline]
      exact .cons (sameWords_enteredLine hcs.1) (ih hcs.2 hleft hrest)

/-! ## The editor for input without a terminal -/

namespace PlainEditor

/-- An editor whose prompts, if it prints any, are printed without fail. -/
def CanShow (e : PlainEditor) : Prop :=
  ∀ cause, e.screen ≠ .broken cause

theorem compose_eq {e : PlainEditor} (he : e.CanShow) (text : Bytes) :
    (compose text e).result = ofRead e.supply.readLine.1 ∧
      (compose text e).after = { e with supply := e.supply.readLine.2 } := by
  unfold compose
  split
  · next cause hscreen => exact absurd hscreen (he cause)
  · exact ⟨rfl, rfl⟩
  · exact ⟨rfl, rfl⟩

/-- The editor can show its prompts, and its supply has a text still to give. -/
structure Ahead (e : PlainEditor) (cs : List Char) : Prop where
  canShow : e.CanShow
  supply : e.supply.Gives cs

theorem entersLines_ahead : EntersLines Ahead where
  line {e cs} he hcs prompt := by
    obtain ⟨hline, hrest⟩ := he.supply.readLine hcs
    obtain ⟨hresult, hafter⟩ := compose_eq he.canShow prompt
    refine ⟨?_, ?_⟩
    · show (compose prompt e).result = _
      rw [hresult, hline]
      simp only [ofRead, Bytes.decode?_encode]
    · show Ahead (compose prompt e).after _
      rw [hafter]
      exact { canShow := he.canShow, supply := hrest }
  endOfInput {e} he prompt := by
    obtain ⟨hend, hrest⟩ := he.supply.readLine_nil
    obtain ⟨hresult, hafter⟩ := compose_eq he.canShow prompt
    refine ⟨?_, ?_⟩
    · show (compose prompt e).result = _
      rw [hresult, hend]
      rfl
    · show Ahead (compose prompt e).after _
      rw [hafter]
      exact { canShow := he.canShow, supply := hrest }
  remember he _ := he

end PlainEditor

end Editor

/-! ## Runs over an editor and over a stream -/

/-- An editor that enters a text line by line, and a stream that gets the same text. -/
structure SameText {ε : Type} [LineComposer ε] (ahead : ε → List Char → Prop) (cs : List Char)
    (x : EditorSource ε) (y : StreamSource) : Prop where
  enters : Editor.EntersLines ahead
  editor : ahead x.editor cs
  stream : y.supply.Delivers (encode cs)

theorem SameText.of_plainEditor {cs : List Char} {x : EditorSource Editor.PlainEditor}
    {y : StreamSource} (hshow : x.editor.CanShow) (hx : x.editor.supply.Delivers (encode cs))
    (hy : y.supply.Delivers (encode cs)) : SameText Editor.PlainEditor.Ahead cs x y where
  enters := Editor.PlainEditor.entersLines_ahead
  editor := { canShow := hshow, supply := hx.gives }
  stream := hy

theorem filterMap_words?_of_sameWords {rs rs' : List ReadResult}
    (h : List.Forall₂ ReadResult.SameWords rs rs') :
    rs.filterMap ReadResult.words? = rs'.filterMap ReadResult.words? := by
  induction h with
  | nil => rfl
  | cons hr _ ih => rw [List.filterMap_cons, List.filterMap_cons, ih, hr.words?_eq]

/-- The commands among results with the same words are the same. -/
theorem commandsOf_of_sameWords {rs rs' : List ReadResult}
    (h : List.Forall₂ ReadResult.SameWords rs rs') : commandsOf rs = commandsOf rs' := by
  rw [commandsOf, commandsOf, filterMap_words?_of_sameWords h]

namespace SameText

open LineReader (result results readEach FirstStop)

variable {ε : Type} [LineComposer ε] {ahead : ε → List Char → Prop} {cs : List Char}
  (hcs : '\x08' ∉ cs) {x : EditorSource ε} {y : StreamSource} (hxy : SameText ahead cs x y)

include hcs hxy

theorem readEach_result {texts texts' : List Bytes} (htexts : texts.length = texts'.length) :
    List.Forall₂ ReadResult.SameWords (readEach texts x).result (readEach texts' y).result := by
  rw [(StreamSource.readEach_eq texts' y).1, ← htexts]
  exact hxy.enters.readEach hcs hxy.editor hxy.stream.gives texts

theorem sameWords_results (n : Nat) :
    List.Forall₂ ReadResult.SameWords (results x n) (results y n) := by
  rw [LineReader.results_eq_readEach, LineReader.results_eq_readEach]
  exact hxy.readEach_result hcs rfl

theorem sameWords (n : Nat) : ReadResult.SameWords (result x n) (result y n) := by
  have hall := hxy.sameWords_results hcs (n + 1)
  rw [LineReader.results_eq_map_range, LineReader.results_eq_map_range, List.forall₂_map_left_iff,
    List.forall₂_map_right_iff, List.forall₂_same] at hall
  exact hall n List.self_mem_range_succ

theorem firstStop_iff (n : Nat) : FirstStop x n ↔ FirstStop y n := by
  unfold FirstStop
  simp only [(hxy.sameWords hcs _).stops_iff]

end SameText

namespace Session

open LineReader (readEach)

variable {σ : Type} (h : Host σ)

/-- Two runs make reads with the same words, and do the same, from asking the operating system to
the states that they pass through. -/
structure RunsAlike {ι κ : Type} [LineReader ι] [LineReader κ] (s : Session σ ι) (t : Session σ κ)
    (act : Act (Except ShellError Unit) (Session σ ι))
    (act' : Act (Except ShellError Unit) (Session σ κ)) : Prop where
  reads : List.Forall₂ ReadResult.SameWords act.journal.reads act'.journal.reads
  dispatches : act'.journal.dispatches = act.journal.dispatches
  sameDeeds : SameDeeds act act'
  /-- The state of the loop is the same behind every one of the reads. -/
  states : ∀ n, (steps h n s).after.state = (steps h n t).after.state

theorem runsAlike_of_sameText {ε : Type} [LineComposer ε] {ahead : ε → List Char → Prop}
    {cs : List Char} (hcs : '\x08' ∉ cs) {s : Session σ (EditorSource ε)}
    {t : Session σ StreamSource} (hxy : SameText ahead cs s.source t.source)
    (hs : s.state = .running) (ht : t.state = .running) (hst : t.toSurroundings = s.toSurroundings)
    {act : Act (Except ShellError Unit) (Session σ (EditorSource ε))} (hact : Completes h s act) :
    RunsAlike h s t act (t.repl h) := by
  have hresults := hxy.sameWords_results hcs
  obtain ⟨n, hn⟩ := Completes.exists_firstStop h hact hs
  have hm := (hxy.firstStop_iff hcs n).1 hn
  have hsteps := Completes.unique hact (completes_of_firstStop h hs hn)
  exact
    { reads := by
        rw [hsteps, reads_steps h hs n hn.2, reads_repl h ht hm]
        exact hresults (n + 1)
      dispatches := by
        rw [hsteps, dispatches_steps h hs n hn.2, dispatches_repl h ht hm]
        exact (filterMap_words?_of_sameWords (hresults (n + 1))).symm
      sameDeeds := hact.sameDeeds (completes_repl h t) hs ht hst hn hm
        (hxy.sameWords hcs n).stop?_eq.symm (commandsOf_of_sameWords (hresults n)).symm
      states := state_steps_eq h h hs ht fun {m} _ => (hxy.sameWords hcs m).nextState_eq }

/-- **An editor without a terminal and a stream agree on plain text.** Take any editor that enters
the lines of its input one after another, without their ends and with their backspaces carried out,
and let a stream get the same well-formed text without backspaces, cut into any deliveries. Read by
read they give lines with the same words, and the end of the input at the same read, whatever the
prompts are. So the loop comes to its end over the editor as it does over the stream, and does the
same: it reads the same words, makes the same requests, tells the same diagnostics, passes through
the same states and ends with the same result. `PlainEditor` is such an editor, whatever the
deliveries to it are. -/
theorem plainEditor_agrees_with_stream {cs : List Char} (hcs : '\x08' ∉ cs) :
    (∀ {ε : Type} [LineComposer ε] {ahead : ε → List Char → Prop} {x : EditorSource ε}
      {y : StreamSource}, SameText ahead cs x y →
      ∀ texts texts' : List Bytes, texts.length = texts'.length →
        List.Forall₂ ReadResult.SameWords (readEach texts x).result (readEach texts' y).result) ∧
    (∀ {ε : Type} [LineComposer ε] {ahead : ε → List Char → Prop} {s : Session σ (EditorSource ε)}
      {t : Session σ StreamSource}, SameText ahead cs s.source t.source → s.state = .running →
      t.state = .running → t.toSurroundings = s.toSurroundings →
        (∃ act, Completes h s act) ∧
        ∀ act, Completes h s act → RunsAlike h s t act (t.repl h)) ∧
    (∀ {ε : Type} [LineEditor ε] {ahead : ε → List Char → Prop} {s : Session σ (EditorSource ε)}
      {t : Session σ StreamSource}, SameText ahead cs s.source t.source → s.state = .running →
      t.state = .running → t.toSurroundings = s.toSurroundings →
        RunsAlike h s t (s.repl h) (t.repl h)) ∧
    ∀ {x : EditorSource Editor.PlainEditor} {y : StreamSource}, x.editor.CanShow →
      x.editor.supply.Delivers (encode cs) → y.supply.Delivers (encode cs) →
        SameText Editor.PlainEditor.Ahead cs x y := by
  refine ⟨fun hxy texts texts' htexts => hxy.readEach_result hcs htexts, ?_, ?_,
    SameText.of_plainEditor⟩
  · intro ε _ ahead s t hxy hs ht hst
    obtain ⟨n, hn, _⟩ := exists_repl_eq h ht
    exact ⟨⟨_, completes_of_firstStop h hs ((hxy.firstStop_iff hcs n).2 hn)⟩,
      fun act hact => runsAlike_of_sameText h hcs hxy hs ht hst hact⟩
  · intro ε _ ahead s t hxy hs ht hst
    exact runsAlike_of_sameText h hcs hxy hs ht hst (completes_repl h s)

/-- A text with both kinds of ends of lines, a blank line and an unterminated last line. The stream
gets it byte by byte, the editor in two pieces and with an interruption between them. -/
theorem plainEditor_agrees_with_stream_of_mixedEnds :
    let text := "cd é\r\n\r\n \tls  -l\n\nls \r"
    let s : Session Unit (EditorSource Editor.PlainEditor) :=
      { host := (), diagnostics := .unlimited
        source := ⟨{ supply :=
                       { script := [.bytes (utf8 "cd é\r\n\r\n \tls"), .fault .interrupted,
                           .bytes (utf8 "  -l\n\nls \r")] }
                     screen := .ready }⟩ }
    let t : Session Unit StreamSource :=
      { host := (), diagnostics := .unlimited
        source := { supply := { script := [.bytes (utf8 text)], capacity := 1 }
                    prompts := .unlimited } }
    '\x08' ∉ text.toList ∧ SameText Editor.PlainEditor.Ahead text.toList s.source t.source ∧
      RunsAlike Host.refusing s t (s.repl Host.refusing) (t.repl Host.refusing) := by
  intro text s t
  have hcs : '\x08' ∉ text.toList := by decide
  obtain ⟨_, _, hruns, hplain⟩ := plainEditor_agrees_with_stream Host.refusing hcs
  have hxy : SameText Editor.PlainEditor.Ahead text.toList s.source t.source :=
    hplain (fun cause hcause => by cases hcause)
      { capacity_pos := by decide, undisturbed := by decide, content := by decide }
      { capacity_pos := by decide, undisturbed := by decide, content := by decide }
  exact ⟨hcs, hxy, hruns hxy rfl rfl rfl⟩

end Session

end LineShell
