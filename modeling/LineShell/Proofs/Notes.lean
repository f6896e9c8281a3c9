import LineShell.Input.Editor
import LineShell.Proofs.History
import LineShell.Proofs.Names
import LineShell.Proofs.Prompts

/-!
# What is noted and what is told

A failure leaves two traces: an event for the log, and a line on the sink for diagnostics. They come
from separate calls, on a path of their own for each kind of failure. Whatever the sink is like,
every path leaves the event, directly behind it the line of that event and, if the line is cut
short, a warning (`Journal.Noted`). So in any history of a session the failures in the log and the
diagnostics are the same ones, in the same order, and nothing but lost output is warned about
(`Session.failures_noted_as_told`).
-/

namespace LineShell

/-! ## Failures in the log -/

/-- The messages of the events which say that a command, or the input, has failed. -/
def failureMessages : List String :=
  ["builtin failed", "launch failed", "failed to read input"]

namespace Event

/-- A failure that is noted for debugging. -/
def IsFailure (e : Event) : Prop :=
  e.level = .debug ∧ e.message ∈ failureMessages

instance : DecidablePred IsFailure := fun e =>
  inferInstanceAs (Decidable (e.level = .debug ∧ e.message ∈ failureMessages))

/-- A warning that a diagnostic could not be written. -/
def IsLoss (e : Event) : Prop :=
  e.level = .warn ∧ e.message = "failed to write diagnostic"

/-- What stands before the error in the line that tells a failure. -/
def lead (e : Event) : Bytes :=
  if e.message = "failed to read input" then utf8 "$: readline: " else utf8 "$: "

/-- The event is a failure, and the line tells what its field `err` says. -/
structure ToldBy (e : Event) (line : Bytes) : Prop where
  isFailure : e.IsFailure
  line_eq : ∃ err, e.fields.lookup "err" = some (.text err) ∧ line = e.lead ++ err ++ [newline]

/-- The message that is told of an event, if one is. -/
def told? : Event → Option Bytes
  | builtinFailed _ e => some e.message
  | launchFailed e => some e.message
  | readFailed cause => some (ShellError.read cause).message
  | _ => none

variable {e : Event} {message : Bytes}

theorem isFailure_iff (e : Event) : e.IsFailure ↔ e.told?.isSome := by
  cases e <;> simp [IsFailure, level, Event.message, failureMessages, told?]

/-- Only output that is lost is warned about. -/
theorem warn_cases (hwarn : e.level = .warn) :
    (∃ cause, e = .promptFailed false cause) ∨ ∃ f, e = .diagnosticLost f := by
  cases e with
  | promptFailed again cause =>
    cases again with
    | false => exact Or.inl ⟨cause, rfl⟩
    | true => cases hwarn
  | diagnosticLost f => exact Or.inr ⟨f, rfl⟩
  | _ => cases hwarn

theorem isLoss_iff (e : Event) : e.IsLoss ↔ ∃ f, e = .diagnosticLost f := by
  constructor
  · rintro ⟨hwarn, hmessage⟩
    rcases warn_cases hwarn with ⟨cause, rfl⟩ | hlost
    · exact absurd hmessage (by simp [Event.message])
    · exact hlost
  · rintro ⟨f, rfl⟩
    exact ⟨rfl, rfl⟩

theorem toldBy_of_told? (he : e.told? = some message) : e.ToldBy (diagnosticLine message) := by
  refine { isFailure := (isFailure_iff e).2 (by simp [he]), line_eq := ?_ }
  rw [diagnosticLine_eq]
  cases e with
  | builtinFailed b error =>
    cases he
    exact ⟨_, rfl, rfl⟩
  | launchFailed error =>
    cases he
    exact ⟨_, rfl, rfl⟩
  | readFailed cause =>
    cases he
    refine ⟨_, rfl, ?_⟩
    have hlead : (readFailed cause).lead = utf8 "$: " ++ utf8 "readline: " := by
      show utf8 "$: readline: " = _
      decide
    rw [hlead, ShellError.message_read, ← List.append_assoc]
  | _ => cases he

end Event

/-! ## Journals that tell what they note -/

/-- Whether a step has no part in noting or telling a failure. -/
def Entry.isAside : Entry → Bool
  | .diagnosed .. | .logged (.diagnosticLost _) => false
  | .logged (.builtinFailed ..) | .logged (.launchFailed _) | .logged (.readFailed _) => false
  | _ => true

theorem Entry.isAside_of_ofReading {e : Entry} (he : e.ofReading) : e.isAside := by
  cases e with
  | logged event => cases event <;> first | rfl | cases he
  | diagnosed line kept => cases he
  | _ => rfl

theorem Entry.isAside_of_ofChild {e : Entry} (he : e.ofChild) : e.isAside := by
  cases e with
  | logged event => cases event <;> first | rfl | cases he
  | diagnosed line kept => cases he
  | _ => rfl

namespace Journal

/-- Every failure is noted and told, one behind the other, and a warning follows if its line was cut
short. -/
inductive Noted : Journal → Prop where
  | nil : Noted []
  | aside {e j} (he : e.isAside) (hrest : Noted j) : Noted (e :: j)
  | told {event message j} (hevent : Event.told? event = some message) (hrest : Noted j) :
    Noted (.logged event
      :: .diagnosed (diagnosticLine message) (diagnosticLine message).length :: j)
  | cut {event message kept f j} (hevent : Event.told? event = some message)
    (hlt : kept < (diagnosticLine message).length) (hrest : Noted j) :
    Noted (.logged event :: .diagnosed (diagnosticLine message) kept
      :: .logged (.diagnosticLost f) :: j)

theorem Noted.append {j k : Journal} (hj : Noted j) (hk : Noted k) : Noted (j ++ k) := by
  induction hj with
  | nil => exact hk
  | aside he _ ih => exact .aside he ih
  | told hevent _ ih => exact .told hevent ih
  | cut hevent hlt _ ih => exact .cut hevent hlt ih

theorem Noted.of_asides {j : Journal} (hj : ∀ e ∈ j, e.isAside) : Noted j := by
  induction j with
  | nil => exact .nil
  | cons e j ih =>
    obtain ⟨he, hrest⟩ := List.forall_mem_cons.1 hj
    exact .aside he (ih hrest)

theorem Noted.ne_lost {j : Journal} (hj : Noted j) (f : Fault) (after : Journal) :
    j ≠ .logged (.diagnosticLost f) :: after := by
  rintro rfl
  cases hj with
  | aside he _ => cases he
  | told hevent _ => cases hevent
  | cut hevent _ _ => cases hevent

/-- A step of such a journal with what stands before and behind it. -/
inductive Place : Journal → Entry → Journal → Prop where
  | aside {before e after} (he : e.isAside) : Place before e after
  | noted {before event message kept after} (hevent : Event.told? event = some message) :
    Place before (.logged event) (.diagnosed (diagnosticLine message) kept :: after)
  | told {before event message after} (hevent : Event.told? event = some message)
    (hnext : ∀ f rest, after ≠ .logged (.diagnosticLost f) :: rest) :
    Place (before ++ [.logged event])
      (.diagnosed (diagnosticLine message) (diagnosticLine message).length) after
  | cut {before event message kept f after} (hevent : Event.told? event = some message)
    (hlt : kept < (diagnosticLine message).length) :
    Place (before ++ [.logged event]) (.diagnosed (diagnosticLine message) kept)
      (.logged (.diagnosticLost f) :: after)
  | lost {before event message kept f after} (hevent : Event.told? event = some message)
    (hlt : kept < (diagnosticLine message).length) :
    Place (before ++ [.logged event, .diagnosed (diagnosticLine message) kept])
      (.logged (.diagnosticLost f)) after

theorem Place.behind {before after : Journal} {e : Entry} (h : Place before e after) (k : Journal) :
    Place (k ++ before) e after := by
  cases h with
  | aside he => exact .aside he
  | noted hevent => exact .noted hevent
  | told hevent hnext =>
    rw [← List.append_assoc]
    exact .told hevent hnext
  | cut hevent hlt =>
    rw [← List.append_assoc]
    exact .cut hevent hlt
  | lost hevent hlt =>
    rw [← List.append_assoc]
    exact .lost hevent hlt

theorem Noted.place {j before after : Journal} {e : Entry} (hj : Noted j)
    (heq : j = before ++ e :: after) : Place before e after := by
  induction hj generalizing before with
  | nil => simp at heq
  | @aside e' j he _ ih =>
    cases before with
    | nil =>
      obtain ⟨rfl, rfl⟩ := List.cons.inj heq
      exact .aside he
    | cons first before =>
      obtain ⟨rfl, hrest⟩ := List.cons.inj heq
      exact (ih hrest).behind [e']
  -- a place lies within the entries of one failure, as `before` is short, or behind them
  | @told event message j hevent hrest ih =>
    match before with
    | [] =>
      obtain ⟨rfl, rfl⟩ := List.cons.inj heq
      exact .noted hevent
    | [first] =>
      obtain ⟨rfl, hsecond⟩ := List.cons.inj heq
      obtain ⟨rfl, rfl⟩ := List.cons.inj hsecond
      exact @Place.told [] event message j hevent hrest.ne_lost
    | first :: second :: before =>
      obtain ⟨rfl, hsecond⟩ := List.cons.inj heq
      obtain ⟨rfl, hlater⟩ := List.cons.inj hsecond
      exact (ih hlater).behind [_, _]
  | @cut event message kept f j hevent hlt hrest ih =>
    match before with
    | [] =>
      obtain ⟨rfl, rfl⟩ := List.cons.inj heq
      exact .noted hevent
    | [first] =>
      obtain ⟨rfl, hsecond⟩ := List.cons.inj heq
      obtain ⟨rfl, rfl⟩ := List.cons.inj hsecond
      exact @Place.cut [] event message kept f j hevent hlt
    | [first, second] =>
      obtain ⟨rfl, hsecond⟩ := List.cons.inj heq
      obtain ⟨rfl, hthird⟩ := List.cons.inj hsecond
      obtain ⟨rfl, rfl⟩ := List.cons.inj hthird
      exact @Place.lost [] event message kept f j hevent hlt
    | first :: second :: third :: before =>
      obtain ⟨rfl, hsecond⟩ := List.cons.inj heq
      obtain ⟨rfl, hthird⟩ := List.cons.inj hsecond
      obtain ⟨rfl, hlater⟩ := List.cons.inj hthird
      exact (ih hlater).behind [_, _, _]

/-- The failures that are noted in a journal are those that are told in it. -/
structure TellsWhatItNotes (j : Journal) : Prop where
  /-- They are the same ones, in the same order. -/
  inOrder : List.Forall₂ Event.ToldBy (j.events.filter fun e => e.IsFailure) j.diagnosed
  /-- Directly before every diagnostic its failure is noted. -/
  preceded : ∀ {before line kept after}, j = before ++ .diagnosed line kept :: after →
    ∃ before' event, before = before' ++ [.logged event] ∧ event.ToldBy line
  /-- Directly behind every failure that is noted stands its diagnostic. -/
  followed : ∀ {before event after}, j = before ++ .logged event :: after → event.IsFailure →
    ∃ line kept after', after = .diagnosed line kept :: after' ∧ event.ToldBy line
  /-- A warning follows exactly those diagnostics that are not written in full. -/
  cut : ∀ {before line kept after}, j = before ++ .diagnosed line kept :: after →
    kept ≤ line.length ∧
      (kept < line.length ↔ ∃ event after', after = .logged event :: after' ∧ event.IsLoss)
  /-- Any other warning is one of a prompt. -/
  warned : ∀ {before event after}, j = before ++ .logged event :: after → event.level = .warn →
    event.message = "failed to write prompt" ∨
      event.IsLoss ∧ ∃ before' failure line kept,
        before = before' ++ [.logged failure, .diagnosed line kept] ∧ failure.ToldBy line ∧
          kept < line.length

theorem told?_of_isAside {event : Event} (he : (Entry.logged event).isAside) :
    event.told? = none := by
  cases event <;> first | rfl | cases he

theorem not_isFailure_of_isAside {event : Event} (he : (Entry.logged event).isAside) :
    ¬ event.IsFailure := by
  rw [Event.isFailure_iff, told?_of_isAside he]
  simp

/-- Of the steps that have no part in failures, only a prompt that fails is warned about. -/
theorem message_of_isAside {event : Event} (he : (Entry.logged event).isAside)
    (hwarn : event.level = .warn) : event.message = "failed to write prompt" := by
  rcases Event.warn_cases hwarn with ⟨cause, rfl⟩ | ⟨f, rfl⟩
  · rfl
  · cases he

theorem events_logged (event : Event) (j : Journal) :
    events (.logged event :: j) = event :: events j := rfl

theorem Noted.inOrder {j : Journal} (hj : Noted j) :
    List.Forall₂ Event.ToldBy (j.events.filter fun e => e.IsFailure) j.diagnosed := by
  induction hj with
  | nil => exact .nil
  | @aside e j he _ ih =>
    cases e with
    | logged event =>
      have hnot := not_isFailure_of_isAside he
      rw [events_logged, List.filter_cons_of_neg (by simpa using hnot)]
      exact ih
    | diagnosed line kept => cases he
    | _ => exact ih
  | @told event message j hevent _ ih =>
    have htold := Event.toldBy_of_told? hevent
    rw [events_logged, List.filter_cons_of_pos (by simpa using htold.isFailure)]
    exact .cons htold ih
  | @cut event message kept f j hevent _ _ ih =>
    have htold := Event.toldBy_of_told? hevent
    have hlost : ¬ (Event.diagnosticLost f).IsFailure := by simp [Event.isFailure_iff, Event.told?]
    rw [events_logged, List.filter_cons_of_pos (by simpa using htold.isFailure)]
    refine .cons htold ?_
    show List.Forall₂ Event.ToldBy
      ((Event.diagnosticLost f :: events j).filter fun e => e.IsFailure) (diagnosed j)
    rw [List.filter_cons_of_neg (by simpa using hlost)]
    exact ih

theorem Noted.tellsWhatItNotes {j : Journal} (hj : Noted j) : j.TellsWhatItNotes := by
  refine { inOrder := hj.inOrder, preceded := ?_, followed := ?_, cut := ?_, warned := ?_ }
  · -- preceded
    intro before line kept after heq
    cases hj.place heq with
    | aside he => cases he
    | told hevent _ => exact ⟨_, _, rfl, Event.toldBy_of_told? hevent⟩
    | cut hevent _ => exact ⟨_, _, rfl, Event.toldBy_of_told? hevent⟩
  · -- followed
    intro before event after heq hfailure
    cases hj.place heq with
    | aside he => exact absurd hfailure (not_isFailure_of_isAside he)
    | noted hevent => exact ⟨_, _, _, rfl, Event.toldBy_of_told? hevent⟩
    | lost _ _ => exact absurd hfailure (by simp [Event.isFailure_iff, Event.told?])
  · -- cut
    intro before line kept after heq
    cases hj.place heq with
    | aside he => cases he
    | told hevent hnext =>
      -- what follows is the journal behind the failure, which begins with no warning of this kind
      refine ⟨Nat.le_refl _, iff_of_false (Nat.lt_irrefl _) ?_⟩
      rintro ⟨event, after', rfl, hloss⟩
      obtain ⟨f, rfl⟩ := (Event.isLoss_iff event).1 hloss
      exact hnext f after' rfl
    | cut hevent hlt => exact ⟨Nat.le_of_lt hlt, iff_of_true hlt ⟨_, _, rfl, rfl, rfl⟩⟩
  · -- warned
    intro before event after heq hwarn
    cases hj.place heq with
    | aside he => exact Or.inl (message_of_isAside he hwarn)
    | noted hevent =>
      have hfailure := (Event.toldBy_of_told? hevent).isFailure
      rw [hfailure.1] at hwarn
      cases hwarn
    | lost hevent hlt =>
      exact Or.inr ⟨⟨rfl, rfl⟩, _, _, _, _, rfl, Event.toldBy_of_told? hevent, hlt⟩

/-- One failure is noted and told in a journal, and `line` tells it. -/
def TellsOnce (j : Journal) (line : Bytes) : Prop :=
  ∃ failure, failure.ToldBy line ∧ (j.events.filter fun e => e.IsFailure) = [failure] ∧
    j.diagnosed = [line]

theorem Noted.tellsOnce {j : Journal} {line : Bytes} (hj : Noted j) (hline : j.diagnosed = [line]) :
    j.TellsOnce line := by
  have hall := hj.inOrder
  rw [hline] at hall
  obtain ⟨failure, rest, htold, hrest, hfailures⟩ := List.forall₂_cons_right_iff.1 hall
  rw [List.forall₂_nil_right_iff.1 hrest] at hfailures
  exact ⟨failure, htold, hfailures, hline⟩

end Journal

/-! ## Commands -/

section Commands

variable {σ : Type} (h : Host σ)

theorem noted_report (event : Event) {message : List Bytes}
    (hevent : event.told? = some message.flatten) (sink : Sink) :
    Journal.Noted (.logged event :: (report message sink).1) := by
  obtain ⟨kept, _, ⟨rfl, hreport⟩ | ⟨hlt, f, hreport⟩⟩ := report_cases message sink
  · rw [hreport]
    exact .told hevent .nil
  · rw [hreport]
    exact .cut hevent hlt .nil

theorem noted_launch (ws : List Bytes) (a : Surroundings σ) : (launch h ws a).journal.Noted := by
  cases ws with
  | nil => exact .nil
  | cons program args =>
    have hrun := Journal.Noted.of_asides fun e he =>
      Entry.isAside_of_ofChild (ofChild_runProgram h program args a.host e he)
    simp only [launch]
    rcases hact : runProgram h program args a.host with ⟨result, j, s⟩
    rw [hact] at hrun
    cases result with
    | ok status => exact hrun.append (.aside rfl .nil)
    | error e => exact hrun.append (noted_report (.launchFailed e) rfl a.diagnostics)

theorem isAside_run (b : Builtin) (ws : List Bytes) (s : σ) :
    ∀ e ∈ (b.run h ws s).journal, e.isAside := by
  unfold Builtin.run
  split
  · exact List.forall_mem_nil _
  · exact List.forall_mem_nil _
  · split
    · exact List.forall_mem_cons.2 ⟨rfl, List.forall_mem_singleton.2 rfl⟩
    · exact List.forall_mem_singleton.2 rfl

theorem noted_invoke (b : Builtin) (ws : List Bytes) (a : Surroundings σ) :
    (b.invoke h ws a).journal.Noted := by
  have hrun := Journal.Noted.of_asides (isAside_run h b ws a.host)
  simp only [Builtin.invoke]
  rcases hact : b.run h ws a.host with ⟨result, j, s⟩
  rw [hact] at hrun
  cases result with
  | ok outcome => exact hrun
  | error e => exact hrun.append (noted_report (.builtinFailed b e) rfl a.diagnostics)

end Commands

/-! ## Prompts -/

open LineReader (readEach readEach_append)

section Reads

variable {ι : Type} [LineReader ι]

/-- The prompts that fail, of so many reads and of nothing else. -/
def PromptsOfReads (s : ι) (events : List Event) (t : ι) : Prop :=
  ∃ n, events = (readEach (List.replicate n prompt) s).journal.promptFailures ∧
    t = (readEach (List.replicate n prompt) s).after

theorem PromptsOfReads.none (s : ι) : PromptsOfReads s [] s :=
  ⟨0, rfl, rfl⟩

theorem PromptsOfReads.one (s : ι) :
    PromptsOfReads s (LineReader.readLine prompt s).journal.promptFailures
      (LineReader.next s) := by
  refine ⟨1, ?_, rfl⟩
  simp [readEach]

theorem PromptsOfReads.append {s t u : ι} {events events' : List Event}
    (hfirst : PromptsOfReads s events t) (hrest : PromptsOfReads t events' u) :
    PromptsOfReads s (events ++ events') u := by
  obtain ⟨m, rfl, rfl⟩ := hfirst
  obtain ⟨n, rfl, rfl⟩ := hrest
  refine ⟨m + n, ?_, ?_⟩
  · rw [List.replicate_add, readEach_append, Journal.promptFailures_append]
  · rw [List.replicate_add, readEach_append]

end Reads

theorem EditorSource.promptFailures_readLine {ε : Type} [LineComposer ε] (text : Bytes)
    (s : EditorSource ε) : (s.readLine text).journal.promptFailures = [] := by
  have hcompose := LineComposer.ofComposing_compose text s.editor
  refine Journal.promptFailures_eq_nil fun again cause hmem => ?_
  unfold readLine ofComposed at hmem
  split at hmem
  · split at hmem
    · cases hcompose _ hmem
    · rcases List.mem_append.1 hmem with hmem | hmem
      · cases hcompose _ hmem
      · cases List.mem_singleton.1 hmem
  · rcases List.mem_append.1 hmem with hmem | hmem
    · cases hcompose _ hmem
    · cases List.mem_singleton.1 hmem
  all_goals cases hcompose _ hmem

theorem EditorSource.promptFailures_readEach {ε : Type} [LineComposer ε] (texts : List Bytes)
    (s : EditorSource ε) : (readEach texts s).journal.promptFailures = [] := by
  induction texts generalizing s with
  | nil => rfl
  | cons text texts ih =>
    have hfirst := s.promptFailures_readLine text
    simp only [readEach, Journal.promptFailures_append, ih, List.append_nil]
    exact hfirst

/-! ## Sessions -/

namespace Session

variable {σ ι : Type} {h : Host σ}

theorem noted_dispatch (h : Host σ) (ws : List Bytes) (a : Surroundings σ) :
    (dispatch h ws a).journal.Noted := by
  cases ws with
  | nil => exact .nil
  | cons name args =>
    simp only [dispatch]
    cases Builtin.lookup name with
    | some b => exact .aside rfl (noted_invoke h b (name :: args) a)
    | none => exact noted_launch h (name :: args) a

theorem noted_execute (h : Host σ) (ws : List Bytes) (s : Session σ ι) :
    (s.execute h ws).journal.Noted :=
  .aside rfl (noted_dispatch h ws s.toSurroundings)

theorem noted_handle (h : Host σ) (r : ReadResult) (s : Session σ ι) :
    (handle h r s).journal.Noted := by
  cases r with
  | line b =>
    have hline := noted_execute h (tokenize b) s
    by_cases hb : (tokenize b).head? = some (utf8 "exit")
    · rw [handle_line_of_exit h hb]
      exact .aside rfl (.aside rfl (.aside rfl .nil))
    · rw [handle_line_of_ne_exit h hb]
      exact hline
  | endOfInput => exact .aside rfl .nil
  | failed cause => exact noted_report (.readFailed cause) rfl s.diagnostics

theorem promptFailures_execute (h : Host σ) (ws : List Bytes) (s : Session σ ι) :
    (s.execute h ws).journal.promptFailures = [] := by
  show (dispatch h ws s.toSurroundings).journal.promptFailures = []
  exact Journal.promptFailures_of_command (ofCommand_dispatch h ws s.toSurroundings)

theorem promptFailures_handle (h : Host σ) (r : ReadResult) (s : Session σ ι) :
    (handle h r s).journal.promptFailures = [] := by
  cases r with
  | line b =>
    by_cases hb : (tokenize b).head? = some (utf8 "exit")
    · rw [handle_line_of_exit h hb]
      rfl
    · rw [handle_line_of_ne_exit h hb]
      exact promptFailures_execute h (tokenize b) s
  | endOfInput => rfl
  | failed cause =>
    show (report (ShellError.read cause).pieces s.diagnostics).1.promptFailures = []
    exact Journal.promptFailures_of_command (ofCommand_report _ s.diagnostics)

variable [LineReader ι]

/-- What is seen on the way from a session to another one: every failure is noted and told, and the
prompts that fail are those of the reads. -/
structure Leads (s : Session σ ι) (j : Journal) (t : Session σ ι) : Prop where
  noted : j.Noted
  prompts : PromptsOfReads s.source j.promptFailures t.source

section Leads

variable {s t u : Session σ ι} {j k : Journal}

theorem Leads.nil (s : Session σ ι) : Leads s [] s where
  noted := .nil
  prompts := .none s.source

theorem Leads.append (hfirst : Leads s j t) (hrest : Leads t k u) : Leads s (j ++ k) u := by
  refine { noted := hfirst.noted.append hrest.noted, prompts := ?_ }
  rw [Journal.promptFailures_append]
  exact hfirst.prompts.append hrest.prompts

/-- Outside of the loop no prompt is shown. -/
theorem Leads.of_not_read (hnoted : j.Noted) (hprompts : j.promptFailures = [])
    (hsource : t.source = s.source) : Leads s j t := by
  refine { noted := hnoted, prompts := ?_ }
  rw [hprompts, hsource]
  exact .none s.source

end Leads

theorem leads_step (h : Host σ) (s : Session σ ι) :
    Leads s (step h s).journal (step h s).after := by
  cases hs : s.state with
  | stopped d =>
    rw [step_of_stopped h hs]
    exact .nil s
  | running =>
    have hread : Journal.Noted (LineReader.readLine prompt s.source).journal :=
      .of_asides fun e he =>
        Entry.isAside_of_ofReading (LineReader.ofReading_readLine prompt s.source e he)
    have hnoted := noted_handle h (LineReader.result s.source 0)
      { s with source := LineReader.next s.source }
    have hprompts := promptFailures_handle h (LineReader.result s.source 0)
      { s with source := LineReader.next s.source }
    refine { noted := ?_, prompts := ?_ }
    · -- noted
      rw [step_of_running h hs]
      exact hread.append (.aside rfl hnoted)
    · -- prompts
      rw [source_step h hs, step_of_running h hs, Journal.promptFailures_append]
      show PromptsOfReads s.source (_ ++ (handle h.toPlatform _ _).journal.promptFailures) _
      rw [hprompts, List.append_nil]
      exact .one s.source

theorem Completes.leads {s : Session σ ι} {act : Act (Except ShellError Unit) (Session σ ι)}
    (hact : Completes h s act) : Leads s act.journal act.after := by
  induction hact with
  | stopped _ => exact .nil _
  | failed _ _ => exact leads_step h _
  | next _ _ _ ih => exact (leads_step h _).append ih

theorem Performs.leads {op : Operation} {s : Session σ ι} {act : Act Answer (Session σ ι)}
    (hop : Performs h op s act) : Leads s act.journal act.after := by
  cases hop with
  | execute ws => exact .of_not_read (noted_execute h ws s) (promptFailures_execute h ws s) rfl
  | launch ws sink =>
    have hcommand := ofCommand_launch h ws ⟨s.host, sink⟩
    exact .of_not_read (noted_launch h ws ⟨s.host, sink⟩)
      (Journal.promptFailures_of_command hcommand) rfl
  | invoke b ws sink =>
    have hcommand := ofCommand_invoke h b ws ⟨s.host, sink⟩
    exact .of_not_read (noted_invoke h b ws ⟨s.host, sink⟩)
      (Journal.promptFailures_of_command hcommand) rfl
  | run b ws =>
    have hcommand := ofCommand_run h b ws s.host
    exact .of_not_read (.of_asides (isAside_run h b ws s.host))
      (Journal.promptFailures_of_command hcommand) rfl
  | step => exact leads_step h s
  | repl hact => exact Completes.leads hact

theorem History.leads {s t : Session σ ι} {calls : List (Operation × Answer)} {j : Journal}
    (hist : History h s calls j t) : Leads s j t := by
  induction hist with
  | start => exact .nil _
  | perform _ hop ih => exact ih.append hop.leads

/-- **What is noted is what is told.** Take any operations on a session, over any reader and any
operating system, with sinks that may be slow, full or broken in any way. The failures noted for
debugging and the diagnostics are the same ones in the same order: directly before each diagnostic
stands the event of its failure, and its line is `$: ` and the field `err` of the event, with
`readline: ` between them if it is the reading of a line that has failed; and no failure is noted
without its diagnostic behind it. A warning follows a diagnostic that is not written in full, and no
other one. The only other warnings are of prompts: over a stream at most one, of the first prompt
that fails, and over an editor none. And failures do leave these traces: of a command or a read that
fails, exactly one of each. On a source the loop always ends, and `repl` is one of these
operations. -/
theorem failures_noted_as_told (h : Host σ) :
    (∀ {ι : Type} [LineReader ι] {s t : Session σ ι} {calls : List (Operation × Answer)}
      {j : Journal}, History h s calls j t → j.TellsWhatItNotes) ∧
    (∀ {s t : Session σ StreamSource} {calls : List (Operation × Answer)} {j : Journal},
      History h s calls j t → WarnedOnce s.source.promptFailed j.promptFailures) ∧
    (∀ {ε : Type} [LineComposer ε] {s t : Session σ (EditorSource ε)}
      {calls : List (Operation × Answer)} {j : Journal},
      History h s calls j t → j.promptFailures = []) ∧
    (∀ {a : Surroundings σ} {ws : List Bytes} {name? : Option Bytes} {message : Bytes},
      Fails h a.host ws name? message →
        (dispatch h ws a).journal.TellsOnce (diagnosticLine message)) ∧
    (∀ {ι : Type} (s : Session σ ι) (cause : Fault),
      (handle h (.failed cause) s).journal.TellsOnce (readFailureLine cause)) ∧
    ∀ {κ : Type} [LineSource κ] (u : Session σ κ),
      (∀ act, Performs h .repl u act ↔
        act = ⟨.done (u.repl h).result, (u.repl h).journal, (u.repl h).after⟩) ∧
      History h u [(.repl, .done (u.repl h).result)] (u.repl h).journal (u.repl h).after ∧
      (u.repl h).journal.TellsWhatItNotes := by
  refine ⟨?_, ?_, ?_, ?_, ?_, ?_⟩
  · intro ι _ s t calls j hist
    exact hist.leads.noted.tellsWhatItNotes
  · intro s t calls j hist
    obtain ⟨n, hfailures, _⟩ := hist.leads.prompts
    rw [hfailures]
    exact (s.source.promptNotes_readEach _).warnedOnce
  · intro ε _ s t calls j hist
    obtain ⟨n, hfailures, _⟩ := hist.leads.prompts
    rw [hfailures]
    exact s.source.promptFailures_readEach _
  · intro a ws name? message hfails
    exact (noted_dispatch h ws a).tellsOnce (diagnosed_dispatch_of_fails hfails)
  · intro ι s cause
    exact (noted_handle h (.failed cause) s).tellsOnce (diagnosed_report _ s.diagnostics)
  · intro κ _ u
    have hrepl := (performs_repl_iff h u).2 rfl
    have hist := History.start.perform hrepl
    exact ⟨fun act => performs_repl_iff h u, hist, hist.leads.noted.tellsWhatItNotes⟩

/-- A step whose prompt, read and diagnostic all fail. -/
theorem failures_noted_as_told_of_broken_step :
    let h := Host.refusing
    let s : Session Unit StreamSource :=
      { host := (), diagnostics := { room := some 0 }
        source := { supply := { script := [.fault (.os 5)] }, prompts := { room := some 0 } } }
    let j := (s.step h).journal
    let failure := Event.readFailed (.os 5)
    History h s [(.step, .progress (s.step h).result)] j (s.step h).after ∧
      j.events = [.promptFailed false .writeZero, failure, .diagnosticLost .writeZero] ∧
      j.TellsWhatItNotes ∧ WarnedOnce false j.promptFailures ∧
      j.diagnosed = [utf8 "$: readline: Input/output error (os error 5)\n"] := by
  intro h s j failure
  have hprompt : s.source.prompts.writeAll prompt = (some .writeZero, s.source.prompts.answer) :=
    Sink.writeAll_of_took_zero (by decide) rfl
  have hmark : s.diagnostics.writeAll (utf8 "$") = (some .writeZero, s.diagnostics.answer) :=
    Sink.writeAll_of_took_zero (by decide) rfl
  have hread : s.source.supply.readLine = (.failed (.os 5), { script := [] }) := by
    rw [Supply.readLine, Supply.readLineOnto, dif_pos rfl]
    rfl
  have hreading : (LineReader.readLine prompt s.source).journal
      = [.prompted prompt 0, .logged (.promptFailed false .writeZero)] := by
    show (s.source.showPrompt prompt).1 = _
    simp only [StreamSource.showPrompt, hprompt]
    rfl
  have hresult : LineReader.result s.source 0 = .failed (.os 5) := by
    show s.source.supply.readLine.1 = _
    rw [hread]
  have hreport : (report (ShellError.read (.os 5)).pieces s.diagnostics).1
      = [.diagnosed (readFailureLine (.os 5)) 0, .logged (.diagnosticLost .writeZero)] := by
    simp only [report, diagnosticPieces, List.cons_append, Sink.writeEach, hmark]
    rfl
  have hj : j = [.prompted prompt 0, .logged (.promptFailed false .writeZero),
      .read (.failed (.os 5)), .logged failure, .diagnosed (readFailureLine (.os 5)) 0,
      .logged (.diagnosticLost .writeZero)] := by
    have hstep := congrArg Act.journal (step_of_running (p := h) (s := s) rfl)
    rw [hreading, hresult, handle_failed] at hstep
    show (step h s).journal = _
    rw [hstep]
    show _ :: _ :: _ :: _ :: (report (ShellError.read (.os 5)).pieces s.diagnostics).1 = _
    rw [hreport]
  have hist : History h s [(.step, .progress (s.step h).result)] j (s.step h).after :=
    History.start.perform (.step s)
  have hmain := failures_noted_as_told h
  refine ⟨hist, ?_, hmain.1 hist, hmain.2.1 hist, ?_⟩
  · rw [hj]
    rfl
  · rw [hj]
    show [readFailureLine (.os 5)] = _
    decide

end Session

end LineShell
