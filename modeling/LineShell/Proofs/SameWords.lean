import LineShell.Proofs.Agenda
import LineShell.Proofs.Layouts
import LineShell.Proofs.Lines
import LineShell.Proofs.Piecemeal

/-!
# Lines with the same words

Of a line the loop looks at nothing but its words, and a line without words makes no difference. So
runs whose lines have the same words up to the same stop do the same things
(`repl_depends_on_words`): the kind and number of the delimiters, the ends of the lines and blank
lines cannot be told from what is done. For a stream whose newlines all get a carriage return in
front of them, even the prompts are the same, one by one.
-/

namespace LineShell

/-! ## Carriage returns -/

/-- A byte string with a carriage return in front of every newline. -/
def withReturns (b : Bytes) : Bytes :=
  b.flatMap fun c => if c = newline then [carriageReturn, newline] else [c]

theorem withReturns_newline (b : Bytes) :
    withReturns (newline :: b) = carriageReturn :: newline :: withReturns b := by
  simp [withReturns]

theorem withReturns_cons {c : UInt8} (hc : c ≠ newline) (b : Bytes) :
    withReturns (c :: b) = c :: withReturns b := by
  simp [withReturns, hc]

theorem withReturns_append (a b : Bytes) :
    withReturns (a ++ b) = withReturns a ++ withReturns b := by
  simp [withReturns]

theorem withReturns_of_not_mem {b : Bytes} (hb : newline ∉ b) : withReturns b = b := by
  induction b with
  | nil => rfl
  | cons c b ih =>
    rw [List.mem_cons, not_or] at hb
    rw [withReturns_cons (Ne.symm hb.1), ih hb.2]

/-- Carriage returns are delimiters next to delimiters. -/
theorem words_withReturns (b : Bytes) : words (withReturns b) = words b := by
  have hnewline : isDelimiter newline = true := by decide
  have hreturn : isDelimiter carriageReturn = true := by decide
  -- a word may have begun in front of the part that the induction is on
  suffices h : ∀ front, words (front ++ withReturns b) = words (front ++ b) from h []
  induction b with
  | nil => intro front; rfl
  | cons c b ih =>
    intro front
    by_cases hc : c = newline
    · subst hc
      rw [withReturns_newline, words_append_delimiter hreturn, words_cons_delimiter hnewline,
        words_append_delimiter hnewline]
      exact congrArg (words front ++ ·) (ih [])
    · have hfront := ih (front ++ [c])
      rw [List.append_assoc, List.append_assoc] at hfront
      rw [withReturns_cons hc]
      exact hfront

/-- What arrives, with a carriage return in front of every newline. -/
def Arrival.withReturn : Arrival → List Arrival
  | byte c => if c = newline then [.byte carriageReturn, .byte newline] else [.byte c]
  | endOfFile => [.endOfFile]
  | fault f => [.fault f]

/-- The result of a read with a carriage return in front of every newline. -/
def ReadResult.withReturns : ReadResult → ReadResult
  | line b => .line (LineShell.withReturns b)
  | endOfInput => .endOfInput
  | failed cause => .failed cause

/-- An entry with carriage returns, if it is the result of a read. -/
def Entry.withReturns : Entry → Entry
  | .read r => .read r.withReturns
  | e => e

/-- Where no line was read there are no newlines to add to. -/
theorem map_withReturns_of_reads {j : Journal} (hj : j.reads = []) :
    j.map Entry.withReturns = j := by
  refine (List.map_congr_left fun e he => ?_).trans (List.map_id j)
  cases e with
  | read r => exact absurd (List.filterMap_eq_nil_iff.1 hj _ he) (by simp)
  | _ => rfl

theorem prompts_map_withReturns (j : Journal) :
    Journal.prompts (j.map Entry.withReturns) = j.prompts := by
  rw [Journal.prompts, List.flatMap_map]
  refine List.flatMap_congr fun e _ => ?_
  cases e <;> rfl

theorem takeLine_withReturns (a : List Arrival) {got : Bytes} (hgot : newline ∉ got) :
    takeLine got (a.flatMap Arrival.withReturn)
      = ((takeLine got a).1.withReturns, (takeLine got a).2.flatMap Arrival.withReturn) := by
  have hrev : newline ∉ got.reverse := by simpa using hgot
  have hend : (lineAtEnd got).withReturns = lineAtEnd got := by
    unfold lineAtEnd
    split
    · rfl
    · exact congrArg ReadResult.line (withReturns_of_not_mem hrev)
  induction a generalizing got with
  | nil => simp [takeLine, hend]
  | cons x a ih =>
    cases x with
    | endOfFile => simp [takeLine, Arrival.withReturn, hend]
    | fault f => simp [takeLine, Arrival.withReturn, ReadResult.withReturns]
    | byte c =>
      by_cases hc : c = newline
      · have hne : carriageReturn ≠ newline := by decide
        simp [takeLine, Arrival.withReturn, hc, hne, ReadResult.withReturns, withReturns_append,
          withReturns_of_not_mem hrev, withReturns_newline]
        rfl
      · have hgot' : newline ∉ c :: got := by simp [hgot, Ne.symm hc]
        have hrev' : newline ∉ (c :: got).reverse := fun hmem => hgot' (List.mem_reverse.1 hmem)
        have hend' : (lineAtEnd (c :: got)).withReturns = lineAtEnd (c :: got) :=
          congrArg ReadResult.line (withReturns_of_not_mem hrev')
        have hrest := ih hgot' hrev' hend'
        simpa [takeLine, Arrival.withReturn, hc] using hrest

/-! ## Streams with and without carriage returns -/

/-- What arrives at one stream arrives at the other one with a carriage return in front of every
newline. Their prompts go the same way. -/
structure StreamSource.ReturnsAdded (s t : StreamSource) : Prop where
  capacity_pos : 0 < s.supply.capacity
  capacity_pos' : 0 < t.supply.capacity
  arrivals : SameArrivals (s.supply.arrivals.flatMap Arrival.withReturn) t.supply.arrivals
  prompts : t.prompts = s.prompts
  promptFailed : t.promptFailed = s.promptFailed

namespace StreamSource

open LineReader (next result)

theorem flatMap_withReturn_map_byte (b : Bytes) :
    (b.map Arrival.byte).flatMap Arrival.withReturn = (withReturns b).map .byte := by
  induction b with
  | nil => rfl
  | cons c b ih =>
    by_cases hc : c = newline
    · simp [withReturns_newline, Arrival.withReturn, hc, ih]
    · simp [withReturns_cons hc, Arrival.withReturn, hc, ih]

/-- Two scripts, one with a carriage return in front of every newline of the other. -/
theorem ReturnsAdded.of_content {s t : StreamSource} (hs : 0 < s.supply.capacity)
    (ht : 0 < t.supply.capacity) (hsupply : s.supply.Undisturbed) (hsupply' : t.supply.Undisturbed)
    (hcontent : t.supply.content = withReturns s.supply.content) (hprompts : t.prompts = s.prompts)
    (hfailed : t.promptFailed = s.promptFailed) : ReturnsAdded s t where
  capacity_pos := hs
  capacity_pos' := ht
  arrivals := by
    rw [Supply.arrivals_eq_content hsupply, Supply.arrivals_eq_content hsupply', hcontent,
      flatMap_withReturn_map_byte]
    exact SameArrivals.refl _
  prompts := hprompts
  promptFailed := hfailed

/-- One read: the line has carriage returns, and all else is the same. -/
theorem ReturnsAdded.readLine {s t : StreamSource} (hst : ReturnsAdded s t) (text : Bytes) :
    (t.readLine text).result = (s.readLine text).result.withReturns ∧
      (t.readLine text).journal = (s.readLine text).journal ∧
      ReturnsAdded (s.readLine text).after (t.readLine text).after := by
  obtain ⟨hs, ht, harrivals, hprompts, hfailed⟩ := hst
  have hshown : t.showPrompt text
      = ((s.showPrompt text).1, { (s.showPrompt text).2 with supply := t.supply }) := by
    simp only [showPrompt, hprompts, hfailed]
  have hnil : newline ∉ ([] : Bytes) := List.not_mem_nil
  have hadded := takeLine_withReturns s.supply.arrivals hnil
  obtain ⟨hline, hleft⟩ := takeLine_of_sameArrivals harrivals []
  rw [hadded] at hline hleft
  refine ⟨?_, ?_, ?_⟩
  · -- the line
    simp only [StreamSource.readLine, hshown, supply_showPrompt]
    rw [Supply.readLine_eq_takeLine hs, Supply.readLine_eq_takeLine ht]
    exact hline.symm
  · -- the prompt
    simp only [StreamSource.readLine, hshown]
  · -- what is left
    simp only [StreamSource.readLine, hshown, supply_showPrompt]
    refine { capacity_pos := ?_, capacity_pos' := ?_, arrivals := ?_, prompts := rfl,
             promptFailed := rfl }
    · rwa [Supply.capacity_readLine hs]
    · rwa [Supply.capacity_readLine ht]
    · rw [Supply.arrivals_readLine hs, Supply.arrivals_readLine ht]
      exact hleft

end StreamSource

/-! ## Sessions -/

namespace Session

open LineReader (next result results FirstStop)

variable {σ ι κ : Type} (h : Host σ)

/-- Sessions with the same surroundings and the same state differ in their sources at most. -/
theorem eq_with_source {s : Session σ ι} {t : Session σ κ}
    (hst : t.toSurroundings = s.toSurroundings) (hstate : t.state = s.state) :
    t = { s with source := t.source } := by
  cases t
  obtain rfl := hst
  obtain rfl := hstate
  rfl

/-- What is done with the result of a read does not depend on the source. -/
theorem handle_with_source (r : ReadResult) (s : Session σ ι) (x : κ) :
    handle h r { s with source := x }
      = ⟨(handle h r s).result, (handle h r s).journal,
          { (handle h r s).after with source := x }⟩ := by
  cases r with
  | line b =>
    simp only [handle_line, execute]
    cases (dispatch h (tokenize b) s.toSurroundings).result <;> rfl
  | endOfInput => rfl
  | failed cause => rfl

/-- So sessions that differ in their sources only do the same with it. -/
theorem handle_of_same {s : Session σ ι} {t : Session σ κ}
    (hst : t.toSurroundings = s.toSurroundings) (hstate : t.state = s.state) (r : ReadResult)
    (x : ι)
    (y : κ) :
    handle h r { t with source := y }
      = ⟨(handle h r { s with source := x }).result, (handle h r { s with source := x }).journal,
          { (handle h r { s with source := x }).after with source := y }⟩ := by
  rw [eq_with_source hst hstate]
  exact handle_with_source h r { s with source := x } y

/-- Nor does it depend on carriage returns. -/
theorem handle_withReturns (r : ReadResult) (s : Session σ ι) :
    handle h r.withReturns s = handle h r s := by
  cases r with
  | line b =>
    have htokens : tokenize (withReturns b) = tokenize b := by
      rw [tokenize_eq_words, tokenize_eq_words, words_withReturns]
    simp only [ReadResult.withReturns, handle_line, htokens]
  | endOfInput => rfl
  | failed cause => rfl

/-- Two sessions over streams, all the same but for the carriage returns. -/
structure ReturnsAdded (s t : Session σ StreamSource) : Prop where
  surroundings : t.toSurroundings = s.toSurroundings
  state : t.state = s.state
  source : StreamSource.ReturnsAdded s.source t.source

/-- One step shows nothing of the carriage returns but the line that it reads. -/
theorem ReturnsAdded.step {s t : Session σ StreamSource} (hst : ReturnsAdded s t)
    (hs : s.state = .running) :
    (step h t).result = (step h s).result ∧
      (step h t).journal = (step h s).journal.map Entry.withReturns ∧
      ReturnsAdded (step h s).after (step h t).after := by
  obtain ⟨hline, hreading, hafter⟩ := hst.source.readLine prompt
  have ht : t.state = .running := hst.state.trans hs
  have hresult : result t.source 0 = (result s.source 0).withReturns := hline
  have hhandle := handle_of_same h hst.surroundings hst.state (result s.source 0) (next s.source)
    (next t.source)
  have hnone := Journal.reads_of_reading (LineReader.ofReading_readLine prompt s.source)
  rw [step_of_running h hs, step_of_running h ht, hresult, handle_withReturns, hhandle]
  refine ⟨rfl, ?_, { surroundings := rfl, state := rfl, source := ?_ }⟩
  · -- only the entry of the read is another one
    rw [List.map_append, List.map_cons, map_withReturns_of_reads hnone,
      map_withReturns_of_reads (reads_handle h _ _)]
    exact congrArg (· ++ _) hreading
  · simp only [source_handle]
    exact hafter

theorem ReturnsAdded.completes {s t : Session σ StreamSource} (hst : ReturnsAdded s t)
    {act : Act (Except ShellError Unit) (Session σ StreamSource)} (hact : Completes h s act) :
    ∃ act', Completes h t act' ∧ act'.result = act.result ∧
      act'.journal = act.journal.map Entry.withReturns ∧ ReturnsAdded act.after act'.after := by
  induction hact generalizing t with
  | stopped hs =>
    have ht : t.state ≠ .running := by rwa [hst.state]
    exact ⟨_, .stopped ht, rfl, rfl, hst⟩
  | failed hs he =>
    obtain ⟨hresult, hjournal, hafter⟩ := hst.step h hs
    rw [← hresult] at he
    exact ⟨_, .failed (hst.state.trans hs) he, rfl, hjournal, hafter⟩
  | next hs ho _ ih =>
    obtain ⟨hresult, hjournal, hafter⟩ := hst.step h hs
    obtain ⟨act', hact', hresult', hjournal', hafter'⟩ := ih hafter
    rw [← hresult] at ho
    refine ⟨_, .next (hst.state.trans hs) ho hact', hresult', ?_, hafter'⟩
    rw [hjournal, hjournal', List.map_append]

theorem ReturnsAdded.repl {s t : Session σ StreamSource} (hst : ReturnsAdded s t) :
    (t.repl h).result = (s.repl h).result ∧
      (t.repl h).journal = (s.repl h).journal.map Entry.withReturns ∧
      ReturnsAdded (s.repl h).after (t.repl h).after := by
  obtain ⟨act', hact', hsame⟩ := hst.completes h (completes_repl h s)
  rw [← completes_iff_eq_repl.1 hact']
  exact hsame

/-- Two runs do the same, apart from asking for lines: the same requests, diagnostics and events in
the same order, and the same in the end. -/
structure SameDeeds (act : Act (Except ShellError Unit) (Session σ ι))
    (act' : Act (Except ShellError Unit) (Session σ κ)) : Prop where
  deeds : act'.journal.deeds = act.journal.deeds
  requests : act'.journal.requests = act.journal.requests
  /-- The diagnostics, and the bytes of them that were accepted. -/
  diagnosed : act'.journal.diagnosed = act.journal.diagnosed
  diagnostics : act'.journal.diagnostics = act.journal.diagnostics
  surroundings : act'.after.toSurroundings = act.after.toSurroundings
  state : act'.after.state = act.after.state
  result : act'.result = act.result

theorem SameDeeds.of_deeds {act : Act (Except ShellError Unit) (Session σ ι)}
    {act' : Act (Except ShellError Unit) (Session σ κ)}
    (hdeeds : act'.journal.deeds = act.journal.deeds)
    (hsurroundings : act'.after.toSurroundings = act.after.toSurroundings)
    (hstate : act'.after.state = act.after.state) (hresult : act'.result = act.result) :
    SameDeeds act act' where
  deeds := hdeeds
  requests := by rw [← Journal.requests_deeds, hdeeds, Journal.requests_deeds]
  diagnosed := by rw [← Journal.diagnosed_deeds, hdeeds, Journal.diagnosed_deeds]
  diagnostics := by rw [← Journal.diagnostics_deeds, hdeeds, Journal.diagnostics_deeds]
  surroundings := hsurroundings
  state := hstate
  result := hresult

/-- Runs with the same commands and the same stop do the same. -/
theorem Completes.sameDeeds [LineReader ι] [LineReader κ] {h : Host σ} {s : Session σ ι}
    {t : Session σ κ} {act : Act (Except ShellError Unit) (Session σ ι)}
    {act' : Act (Except ShellError Unit) (Session σ κ)} (hact : Completes h s act)
    (hact' : Completes h t act') (hs : s.state = .running) (ht : t.state = .running)
    (hst : t.toSurroundings = s.toSurroundings) {n m : Nat} (hn : FirstStop s.source n)
    (hm : FirstStop t.source m) (hstop : (result t.source m).stop? = (result s.source n).stop?)
    (hwords : commandsOf (results t.source m) = commandsOf (results s.source n)) :
    SameDeeds act act' := by
  obtain ⟨stop, hsome⟩ := (ReadResult.stops_iff_exists_stop _).1 hn.1
  obtain ⟨hdeeds, hafter, hstate, hresult⟩ := hact.eq_carryOut hs hn hsome rfl
  have hcarried : carryOut h (commandsOf (results t.source m)) t.toSurroundings
      = carryOut h (commandsOf (results s.source n)) s.toSurroundings := by
    rw [hwords, hst]
  obtain ⟨hdeeds', hafter', hstate', hresult'⟩ :=
    hact'.eq_carryOut ht hm (hstop.trans hsome) hcarried
  exact .of_deeds (hdeeds'.trans hdeeds.symm) (hafter'.trans hafter.symm)
    (hstate'.trans hstate.symm) (hresult'.trans hresult.symm)

theorem sameDeeds_of_commands [LineSource ι] [LineSource κ] {s : Session σ ι} {t : Session σ κ}
    (hs : s.state = .running) (ht : t.state = .running)
    (hst : t.toSurroundings = s.toSurroundings) {n m : Nat} (hn : FirstStop s.source n)
    (hm : FirstStop t.source m) (hstop : (result t.source m).stop? = (result s.source n).stop?)
    (hwords : commandsOf (results t.source m) = commandsOf (results s.source n)) :
    SameDeeds (s.repl h) (t.repl h) :=
  (completes_repl h s).sameDeeds (completes_repl h t) hs ht hst hn hm hstop hwords

/-- **A run depends on the words of its lines.** Take two sessions with the same surroundings whose
sources, of whatever kinds, come to the same stop and whose lines up to it have the same words,
blank lines left out. They do the same: the same requests and the same diagnostics in the same
order, with the same operating system, state and result in the end. And when a stream gets a
carriage return in front of every newline, the whole journal stays the same, prompts and the number
of reads included, but for the carriage returns in the lines that are read. -/
theorem repl_depends_on_words [LineSource ι] [LineSource κ] :
    (∀ {s : Session σ ι} {t : Session σ κ}, s.state = .running → t.state = .running →
      t.toSurroundings = s.toSurroundings →
      ∀ {n m : Nat}, FirstStop s.source n → FirstStop t.source m →
        (result t.source m).stop? = (result s.source n).stop? →
        commandsOf (results t.source m) = commandsOf (results s.source n) →
        SameDeeds (s.repl h) (t.repl h)) ∧
    ∀ {s t : Session σ StreamSource}, ReturnsAdded s t →
      (t.repl h).result = (s.repl h).result ∧
        (t.repl h).journal = (s.repl h).journal.map Entry.withReturns ∧
        (t.repl h).journal.prompts = (s.repl h).journal.prompts ∧
        ReturnsAdded (s.repl h).after (t.repl h).after := by
  refine ⟨?_, ?_⟩
  · intro s t hs ht hst n m hn hm hstop hwords
    exact sameDeeds_of_commands h hs ht hst hn hm hstop hwords
  · intro s t hst
    obtain ⟨hresult, hjournal, hafter⟩ := hst.repl h
    refine ⟨hresult, hjournal, ?_, hafter⟩
    rw [hjournal]
    exact prompts_map_withReturns _

/-- Lines with other delimiters and blank lines before the same fault; and a script with two kinds
of ends of lines, from different buffers. -/
theorem repl_depends_on_words_of_blanks :
    let s : Session Unit ListedSource :=
      { host := (), diagnostics := .unlimited
        source := ⟨[.line (utf8 "cd /tmp x\n"), .line (utf8 "ls  -l"), .failed (.os 5)]⟩ }
    let t : Session Unit ListedSource :=
      { host := (), diagnostics := .unlimited
        source := ⟨[.line (utf8 "\r\n"), .line (utf8 "\tcd   /tmp x"), .line (utf8 " \n"),
          .line (utf8 " ls -l \r\n"), .failed (.os 5), .line (utf8 "exit\n")]⟩ }
    let u : Session Unit StreamSource :=
      { host := (), diagnostics := .unlimited
        source := { supply :=
                      { script := [.bytes (utf8 "cd /tmp\nls"), .bytes (utf8 " -l\nexit\n")] }
                    prompts := .unlimited } }
    let v : Session Unit StreamSource :=
      { host := (), diagnostics := .unlimited
        source := { supply := { script := [.bytes (utf8 "cd /tmp\r\nls -l\r\nexit\r\n")]
                                capacity := 1 }
                    prompts := .unlimited } }
    SameDeeds (s.repl Host.refusing) (t.repl Host.refusing) ∧
      ReturnsAdded u v ∧
      (v.repl Host.refusing).journal
        = (u.repl Host.refusing).journal.map Entry.withReturns := by
  intro s t u v
  have hn : FirstStop s.source 2 := by
    unfold FirstStop
    decide
  have hm : FirstStop t.source 4 := by
    unfold FirstStop
    decide
  have huv : ReturnsAdded u v :=
    { surroundings := rfl
      state := rfl
      source := .of_content (by decide) (by decide) (by decide) (by decide) (by decide) rfl rfl }
  obtain ⟨hdeeds, hreturns⟩ :=
    repl_depends_on_words (ι := ListedSource) (κ := ListedSource) Host.refusing
  exact ⟨hdeeds rfl rfl rfl hn hm (by decide) (by decide), huv, (hreturns huv).2.1⟩

end Session

end LineShell
