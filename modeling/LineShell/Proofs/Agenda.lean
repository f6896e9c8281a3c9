import LineShell.Proofs.Effects
import LineShell.Proofs.Loop

/-!
# What a run has to do

A run of the loop has an agenda: the words of its lines that are not blank, in order, and the stop
that it comes to. What the run does to the outside world, apart from asking for lines, is to carry
out these words one after another and to close with the stop (`repl_eq_carryOut`). So two runs with
the same agenda do the same things, whatever their lines look like and however many of them are
blank.
-/

namespace LineShell

/-! ## Deeds -/

/-- Whether an entry is something done, and not a part of asking for a line. -/
def Entry.isDeed : Entry → Bool
  | .asked _ | .diagnosed .. => true
  | .logged (.promptFailed ..) | .logged .lineDiscarded => false
  | .logged _ => true
  | .prompted .. | .read _ | .dispatched _ | .remembered _ | .printed .. => false

namespace Journal

/-- What is done in a journal, in order: requests, diagnostics and events, without those of asking
for lines. -/
def deeds (j : Journal) : Journal :=
  j.filter Entry.isDeed

@[simp] theorem deeds_nil : deeds [] = [] := rfl

@[simp] theorem deeds_append (j k : Journal) : deeds (j ++ k) = deeds j ++ deeds k := by
  simp [deeds]

@[simp] theorem deeds_cons (e : Entry) (j : Journal) :
    deeds (e :: j) = if e.isDeed then e :: deeds j else deeds j :=
  List.filter_cons

theorem deeds_of_reading {j : Journal} (h : ∀ e ∈ j, e.ofReading) : j.deeds = [] := by
  refine List.filter_eq_nil_iff.2 fun e he => ?_
  have hkind := h e he
  cases e with
  | logged event => cases event <;> first | exact Bool.false_ne_true | cases hkind
  | _ => first | exact Bool.false_ne_true | cases hkind

/-- A projection that shows deeds only shows no less of the deeds than of the whole journal. -/
theorem filterMap_deeds {α : Type} {f : Entry → Option α}
    (hf : ∀ e : Entry, e.isDeed = false → f e = none) (j : Journal) :
    j.deeds.filterMap f = j.filterMap f := by
  rw [deeds, List.filterMap_filter]
  refine List.filterMap_congr fun e _ => ?_
  cases he : e.isDeed with
  | true => rfl
  | false => exact (hf e he).symm

theorem requests_deeds (j : Journal) : j.deeds.requests = j.requests :=
  filterMap_deeds (fun e he => by cases e <;> first | rfl | cases he) j

theorem diagnosed_deeds (j : Journal) : j.deeds.diagnosed = j.diagnosed :=
  filterMap_deeds (fun e he => by cases e <;> first | rfl | cases he) j

theorem diagnostics_deeds (j : Journal) : j.deeds.diagnostics = j.diagnostics := by
  induction j with
  | nil => rfl
  | cons e j ih =>
    have hcons : ∀ k, diagnostics (e :: k) = diagnostics [e] ++ diagnostics k :=
      fun k => diagnostics_append [e] k
    rw [deeds_cons, hcons]
    cases he : e.isDeed with
    | true => rw [if_pos rfl, hcons, ih]
    | false =>
      have hnone : diagnostics [e] = [] := by cases e <;> first | rfl | cases he
      rw [if_neg Bool.false_ne_true, hnone, List.nil_append, ih]

end Journal

theorem deeds_report (message : List Bytes) (sink : Sink) :
    (report message sink).1.deeds = (report message sink).1 := by
  refine List.filter_eq_self.2 fun e he => ?_
  simp only [report, List.mem_cons, Option.mem_toList, Option.map_eq_some_iff] at he
  rcases he with rfl | ⟨f, _, rfl⟩
  · rfl
  · rfl

/-- A projection that shows requests and diagnostics only, and of a diagnostic nothing of how much
of it was accepted. -/
structure Journal.SinkBlind {α : Type} (view : Journal → List α) : Prop where
  append : ∀ j k, view (j ++ k) = view j ++ view k
  deeds : ∀ j, view j.deeds = view j
  logged : ∀ event, view [.logged event] = []
  diagnosed : ∀ line kept kept', view [.diagnosed line kept] = view [.diagnosed line kept']

namespace Journal

theorem sinkBlind_requests : SinkBlind requests where
  append := requests_append
  deeds := requests_deeds
  logged _ := rfl
  diagnosed _ _ _ := rfl

theorem sinkBlind_diagnosed : SinkBlind diagnosed where
  append := diagnosed_append
  deeds := diagnosed_deeds
  logged _ := rfl
  diagnosed _ _ _ := rfl

theorem SinkBlind.nil {α : Type} {view : Journal → List α} (hview : SinkBlind view) :
    view [] = [] := by
  have hnil := hview.append [] []
  rw [List.append_nil] at hnil
  exact List.self_eq_append_left.1 hnil

/-- A diagnostic is shown the same way on every sink. -/
theorem SinkBlind.report {α : Type} {view : Journal → List α} (hview : SinkBlind view)
    (message : List Bytes) (sink : Sink) (kept : Nat) :
    view (LineShell.report message sink).1
      = view [.diagnosed (diagnosticLine message.flatten) kept] := by
  simp only [LineShell.report]
  rw [← List.singleton_append, hview.append, hview.diagnosed _ _ kept]
  cases (sink.writeEach (diagnosticPieces message)).1 with
  | none => simp [hview.nil]
  | some f => simp [hview.logged]

end Journal

/-! ## Stops -/

/-- What a run comes to its end with. -/
inductive Stop where
  | endOfInput
  | fault (cause : Fault)
  /-- A line whose first word is `exit`. -/
  | exit
  deriving DecidableEq, Repr

/-- The stop that the result of a read is, if it is one. -/
def ReadResult.stop? : ReadResult → Option Stop
  | line b => if (tokenize b).head? = some (utf8 "exit") then some .exit else none
  | endOfInput => some .endOfInput
  | failed cause => some (.fault cause)

namespace Stop

variable {σ : Type}

/-- The state that the loop is left in. -/
def state : Stop → LoopState
  | endOfInput => .stopped .clean
  | fault _ => .stopped .failed
  | exit => .stopped .clean

/-- What the loop returns. -/
def ending : Stop → Except ShellError Unit
  | endOfInput => .ok ()
  | fault cause => .error (.read cause)
  | exit => .ok ()

/-- What is done at the stop. -/
def close (stop : Stop) (a : Surroundings σ) : Journal × Surroundings σ :=
  match stop with
  | endOfInput => ([.logged .endOfInput], a)
  | fault cause =>
    (.logged (.readFailed cause) :: (report (ShellError.read cause).pieces a.diagnostics).1,
      { a with diagnostics := (report (ShellError.read cause).pieces a.diagnostics).2 })
  | exit =>
    ([.logged (.runningBuiltin .exit), .logged (.terminationRequested (utf8 "exit"))], a)

@[simp] theorem host_close (stop : Stop) (a : Surroundings σ) : (stop.close a).2.host = a.host := by
  cases stop <;> rfl

theorem close_of_acceptsAll (stop : Stop) {a b : Surroundings σ} (ha : a.diagnostics.AcceptsAll)
    (hb : b.diagnostics.AcceptsAll) : (stop.close a).1 = (stop.close b).1 := by
  cases stop with
  | endOfInput => rfl
  | fault cause =>
    have hreport := (report_of_acceptsAll ha (ShellError.read cause).pieces).1
    have hreport' := (report_of_acceptsAll hb (ShellError.read cause).pieces).1
    simp only [close, hreport, hreport']
  | exit => rfl

end Stop

theorem Journal.SinkBlind.close {τ α : Type} {view : Journal → List α} (hview : SinkBlind view)
    (stop : Stop) (a : Surroundings σ) (b : Surroundings τ) :
    view (stop.close a).1 = view (stop.close b).1 := by
  cases stop with
  | endOfInput => rfl
  | fault cause =>
    have htold : ∀ sink : Sink,
        view (.logged (.readFailed cause)
            :: (LineShell.report (ShellError.read cause).pieces sink).1)
          = view [.logged (.readFailed cause)]
            ++ view [.diagnosed (diagnosticLine (ShellError.read cause).message) 0] := by
      intro sink
      rw [← List.singleton_append, hview.append, hview.report _ sink 0]
      rfl
    exact (htold a.diagnostics).trans (htold b.diagnostics).symm
  | exit => rfl

theorem ReadResult.stops_iff_exists_stop (r : ReadResult) :
    r.Stops ↔ ∃ stop, r.stop? = some stop := by
  cases r with
  | line b => by_cases hb : (tokenize b).head? = some (utf8 "exit") <;> simp [Stops, stop?, hb]
  | endOfInput => simp [Stops, stop?]
  | failed cause => simp [Stops, stop?]

theorem ReadResult.ending_of_stop {r : ReadResult} {stop : Stop} (hr : r.stop? = some stop) :
    r.ending = stop.ending ∧ r.nextState = stop.state := by
  cases r with
  | line b =>
    by_cases hb : (tokenize b).head? = some (utf8 "exit")
    · simp only [stop?, hb, if_true] at hr
      cases hr
      exact ⟨rfl, if_pos hb⟩
    · simp [stop?, hb] at hr
  | endOfInput => cases hr; exact ⟨rfl, rfl⟩
  | failed cause => cases hr; exact ⟨rfl, rfl⟩

/-- The words of the lines among results of reads that are not blank. -/
def commandsOf (rs : List ReadResult) : List (List Bytes) :=
  (rs.filterMap ReadResult.words?).filter (· ≠ [])

@[simp] theorem commandsOf_append (rs rs' : List ReadResult) :
    commandsOf (rs ++ rs') = commandsOf rs ++ commandsOf rs' := by
  simp [commandsOf]

theorem commandsOf_cons_line (b : Bytes) (rs : List ReadResult) :
    commandsOf (.line b :: rs)
      = if tokenize b = [] then commandsOf rs else tokenize b :: commandsOf rs := by
  by_cases hb : tokenize b = [] <;> simp [commandsOf, ReadResult.words?, hb]

namespace Session

open LineReader (result results FirstStop)

variable {σ ι : Type} (h : Host σ)

/-! ## Carrying out commands -/

/-- Carry out the words of lines, one line after another. -/
def carryOut : List (List Bytes) → Surroundings σ → Journal × Surroundings σ
  | [], a => ([], a)
  | ws :: rest, a =>
    ((dispatch h ws a).journal ++ (carryOut rest (dispatch h ws a).after).1,
      (carryOut rest (dispatch h ws a).after).2)

theorem carryOut_append (wss wss' : List (List Bytes)) (a : Surroundings σ) :
    carryOut h (wss ++ wss') a
      = ((carryOut h wss a).1 ++ (carryOut h wss' (carryOut h wss a).2).1,
          (carryOut h wss' (carryOut h wss a).2).2) := by
  induction wss generalizing a with
  | nil => rfl
  | cons ws rest ih => simp only [List.cons_append, carryOut, ih, List.append_assoc]

/-- With a sink that accepts everything, carrying out commands is up to the operating system
alone. -/
theorem carryOut_of_acceptsAll (wss : List (List Bytes)) {a : Surroundings σ}
    (ha : a.diagnostics.AcceptsAll) :
    (carryOut h wss a).1 = (Effect.ofCommands h wss a.host).1 ∧
      (carryOut h wss a).2.host = (Effect.ofCommands h wss a.host).2 ∧
      (carryOut h wss a).2.diagnostics.AcceptsAll := by
  induction wss generalizing a with
  | nil => exact ⟨rfl, rfl, ha⟩
  | cons ws rest ih =>
    obtain ⟨hjournal, hhost, hsink⟩ := dispatch_of_acceptsAll h ws a ha
    obtain ⟨hjournal', hhost', hsink'⟩ := ih hsink
    simp only [carryOut, Effect.ofCommands, ← hhost]
    exact ⟨by rw [hjournal, hjournal'], hhost', hsink'⟩

/-- What a sink-blind projection shows of commands, and what becomes of the operating system, does
not depend on the sink. -/
theorem view_carryOut {α : Type} {view : Journal → List α} (hview : Journal.SinkBlind view)
    (wss : List (List Bytes)) (a : Surroundings σ) :
    view (carryOut h wss a).1 = view (Effect.ofCommands h wss a.host).1 ∧
      (carryOut h wss a).2.host = (Effect.ofCommands h wss a.host).2 := by
  induction wss generalizing a with
  | nil => exact ⟨rfl, rfl⟩
  | cons ws rest ih =>
    obtain ⟨hjournal, hhost⟩ := ih (dispatch h ws a).after
    have htell : ∀ message : Option (List Bytes), view (tell message a.diagnostics).1
        = view (message.map fun m => Entry.diagnosed (diagnosticLine m.flatten)
            (diagnosticLine m.flatten).length).toList := by
      intro message
      cases message with
      | none => rfl
      | some m => exact hview.report m a.diagnostics _
    have hafter : (dispatch h ws a).after.host = (Effect.ofWords h ws a.host).host := by
      rw [dispatch_eq_effect]
    simp only [carryOut, Effect.ofCommands, hview.append, hjournal, hhost, hafter, and_true]
    rw [dispatch_eq_effect, Effect.fullJournal, hview.append, hview.append, htell]

/-! ## The loop -/

section Reader

variable [LineReader ι] {s : Session σ ι} (hs : s.state = .running)

include hs

/-- A step that reads a line other than `exit` does what the words of the line do. -/
theorem deeds_step_of_not_stops (h0 : ¬ (result s.source 0).Stops) :
    (step h s).journal.deeds
        = (carryOut h (commandsOf [result s.source 0]) s.toSurroundings).1.deeds ∧
      (step h s).after.toSurroundings
        = (carryOut h (commandsOf [result s.source 0]) s.toSurroundings).2 := by
  obtain ⟨b, hb, hexit⟩ := ReadResult.exists_line_of_not_stops h0
  have hreading := Journal.deeds_of_reading (LineReader.ofReading_readLine prompt s.source)
  have hstep := step_of_running h hs
  rw [hb, handle_line_of_ne_exit h hexit] at hstep
  rw [hstep, hb, commandsOf_cons_line]
  by_cases hblank : tokenize b = []
  · simp [hreading, Entry.isDeed, execute, hblank, carryOut, dispatch, commandsOf]
  · simp [hreading, Entry.isDeed, execute, hblank, carryOut, commandsOf]

/-- A step that comes to a stop closes with it. -/
theorem deeds_step_of_stop {stop : Stop} (hstop : (result s.source 0).stop? = some stop) :
    (step h s).journal.deeds = (stop.close s.toSurroundings).1 ∧
      (step h s).after.toSurroundings = (stop.close s.toSurroundings).2 := by
  have hreading := Journal.deeds_of_reading (LineReader.ofReading_readLine prompt s.source)
  have hstep := step_of_running h hs
  cases hr : result s.source 0 with
  | line b =>
    rw [hr] at hstop hstep
    by_cases hb : (tokenize b).head? = some (utf8 "exit")
    · simp only [ReadResult.stop?, hb, if_true] at hstop
      cases hstop
      rw [handle_line_of_exit h hb] at hstep
      rw [hstep]
      simp [hreading, Entry.isDeed, Stop.close]
    · simp [ReadResult.stop?, hb] at hstop
  | endOfInput =>
    rw [hr] at hstop hstep
    cases hstop
    rw [handle_endOfInput] at hstep
    rw [hstep]
    simp [hreading, Entry.isDeed, Stop.close]
  | failed cause =>
    rw [hr] at hstop hstep
    cases hstop
    rw [handle_failed] at hstep
    rw [hstep]
    simp [hreading, Entry.isDeed, Stop.close, deeds_report]

/-- As long as nothing stops the loop, its steps carry out the commands that are read. -/
theorem deeds_steps (n : Nat) (hn : ∀ m < n, ¬ (result s.source m).Stops) :
    (steps h n s).journal.deeds
        = (carryOut h (commandsOf (results s.source n)) s.toSurroundings).1.deeds ∧
      (steps h n s).after.toSurroundings
        = (carryOut h (commandsOf (results s.source n)) s.toSurroundings).2 := by
  induction n generalizing s with
  | zero => exact ⟨rfl, rfl⟩
  | succ n ih =>
    have h0 := hn 0 (Nat.succ_pos n)
    have hrest : ∀ m < n, ¬ (result (step h s).after.source m).Stops := by
      rw [source_step h hs]
      exact fun m hm => hn (m + 1) (Nat.succ_lt_succ hm)
    obtain ⟨hdeeds, hafter⟩ := deeds_step_of_not_stops h hs h0
    obtain ⟨hdeeds', hafter'⟩ := ih (running_step h hs h0) hrest
    have hcommands : commandsOf (results s.source (n + 1))
        = commandsOf [result s.source 0] ++ commandsOf (results (LineReader.next s.source) n) := by
      rw [← commandsOf_append]
      rfl
    rw [hcommands, carryOut_append, journal_steps_succ, after_steps_succ, Journal.deeds_append,
      Journal.deeds_append, hdeeds, hdeeds', hafter', hafter, source_step h hs]
    exact ⟨rfl, rfl⟩

end Reader

/-- What a run that ends does, apart from asking for lines: its commands one after another, and its
stop. -/
theorem Completes.eq_carryOut [LineReader ι] {h : Host σ} {s : Session σ ι}
    {act : Act (Except ShellError Unit) (Session σ ι)} (hact : Completes h s act)
    (hs : s.state = .running) {n : Nat} (hn : FirstStop s.source n)
    {stop : Stop} (hstop : (result s.source n).stop? = some stop) {c : Journal × Surroundings σ}
    (hc : carryOut h (commandsOf (results s.source n)) s.toSurroundings = c) :
    act.journal.deeds = c.1.deeds ++ (stop.close c.2).1 ∧
      act.after.toSurroundings = (stop.close c.2).2 ∧
      act.after.state = stop.state ∧ act.result = stop.ending := by
  obtain rfl := Completes.unique (completes_of_firstStop h hs hn) hact
  obtain ⟨hrun, hsource⟩ := after_steps_of_not_stops h hs n hn.2
  obtain ⟨hdeeds, hafter⟩ := deeds_steps h hs n hn.2
  obtain ⟨hending, hstate⟩ := ReadResult.ending_of_stop hstop
  rw [hc] at hdeeds hafter
  -- the last of the steps is the one that comes to the stop
  have hlast : (result (steps h n s).after.source 0).stop? = some stop := by
    rw [hsource, LineReader.result_afterReads]
    exact hstop
  obtain ⟨hclose, hclosed⟩ := deeds_step_of_stop h hrun hlast
  rw [hafter] at hclose hclosed
  refine ⟨?_, ?_, ?_, ?_⟩
  · rw [journal_steps_succ_last, Journal.deeds_append, hdeeds, hclose]
  · rw [after_steps_succ_last, hclosed]
  · exact (state_steps h hs n hn.2).trans hstate
  · exact hending

theorem repl_eq_carryOut [LineSource ι] {s : Session σ ι} (hs : s.state = .running) {n : Nat}
    (hn : FirstStop s.source n) {stop : Stop} (hstop : (result s.source n).stop? = some stop)
    {c : Journal × Surroundings σ}
    (hc : carryOut h (commandsOf (results s.source n)) s.toSurroundings = c) :
    (s.repl h).journal.deeds = c.1.deeds ++ (stop.close c.2).1 ∧
      (s.repl h).after.toSurroundings = (stop.close c.2).2 ∧
      (s.repl h).after.state = stop.state ∧ (s.repl h).result = stop.ending :=
  (completes_repl h s).eq_carryOut hs hn hstop hc

/-- What a sink-blind projection shows of a run does not depend on the sink. -/
theorem view_repl [LineSource ι] {α : Type} {view : Journal → List α}
    (hview : Journal.SinkBlind view) {s : Session σ ι} (hs : s.state = .running) {n : Nat}
    (hn : FirstStop s.source n) {stop : Stop} (hstop : (result s.source n).stop? = some stop) :
    view (s.repl h).journal
        = view (Effect.ofCommands h (commandsOf (results s.source n)) s.host).1
          ++ view (stop.close s.toSurroundings).1 ∧
      (s.repl h).after.host = (Effect.ofCommands h (commandsOf (results s.source n)) s.host).2 := by
  obtain ⟨hdeeds, hafter, _⟩ := repl_eq_carryOut h hs hn hstop rfl
  obtain ⟨hjournal, hhost⟩ :=
    view_carryOut h hview (commandsOf (results s.source n)) s.toSurroundings
  have hsurroundings := congrArg Surroundings.host hafter
  rw [Stop.host_close, hhost] at hsurroundings
  refine ⟨?_, hsurroundings⟩
  rw [← hview.deeds, hdeeds, hview.append, hview.deeds, hjournal,
    hview.close stop _ s.toSurroundings]

end Session

end LineShell
