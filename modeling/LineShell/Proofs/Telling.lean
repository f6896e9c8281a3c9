import LineShell.Proofs.Effects
import LineShell.Proofs.Encoding
import LineShell.Proofs.Layouts
import LineShell.Proofs.Loop
import LineShell.Proofs.Waiting

/-!
# What is told of failures

Of a command that fails the shell tells one line, and of any other one nothing. The bytes of a line
of input cannot make two lines out of one: a word holds no end of a line, and decoding it brings
none in (`Fails.isDiagnostic`). So if a sink accepts everything, the lines in it are the failures of
a run, one by one and in order (`failures_told_line_by_line`).
-/

namespace LineShell

open Text (lossy replacement)

/-! ## One line -/

namespace Bytes

/-- No line ends within the bytes. -/
def Unbroken (b : Bytes) : Prop :=
  newline ∉ b ∧ carriageReturn ∉ b

instance : DecidablePred Unbroken := fun b =>
  inferInstanceAs (Decidable (newline ∉ b ∧ carriageReturn ∉ b))

theorem Unbroken.append {a b : Bytes} (ha : Unbroken a) (hb : Unbroken b) : Unbroken (a ++ b) := by
  constructor
  · rw [List.mem_append, not_or]
    exact ⟨ha.1, hb.1⟩
  · rw [List.mem_append, not_or]
    exact ⟨ha.2, hb.2⟩

/-- The ends of lines are delimiters. -/
theorem unbroken_of_isDelimiter {b : Bytes} (hb : ∀ c ∈ b, isDelimiter c = false) : Unbroken b := by
  constructor
  · intro hmem
    exact absurd (hb _ hmem) (by decide)
  · intro hmem
    exact absurd (hb _ hmem) (by decide)

end Bytes

/-- The bytes of a number are those of its digits. -/
theorem le_of_mem_number {n : Nat} {b : UInt8} (hb : b < 128) (hmem : b ∈ utf8 (toString n)) :
    48 ≤ b.toNat := by
  obtain ⟨c, hc, hbyte⟩ := List.mem_flatMap.1 hmem
  rw [mem_utf8EncodeChar_iff hb] at hbyte
  have hdigits : c ∈ Nat.toDigits 10 n := by simpa using hc
  have hdigit := Nat.isDigit_of_mem_toDigits (by decide) (by decide) hdigits
  simp only [Char.isDigit, Bool.and_eq_true, decide_eq_true_eq] at hdigit
  rw [← hbyte]
  exact UInt32.le_iff_toNat_le.1 hdigit.1

theorem unbroken_number (n : Nat) : (utf8 (toString n)).Unbroken := by
  constructor
  · intro hmem
    exact absurd (le_of_mem_number (by decide) hmem) (by decide)
  · intro hmem
    exact absurd (le_of_mem_number (by decide) hmem) (by decide)

/-- A diagnostic: a line of text with the mark of the shell in front. -/
structure IsDiagnostic (line : Bytes) : Prop where
  text : line.IsText
  oneLine : ∃ message : Bytes, message.Unbroken ∧ line = utf8 "$: " ++ message ++ [newline]

theorem diagnosticLine_eq (message : Bytes) :
    diagnosticLine message = utf8 "$: " ++ message ++ [newline] := by
  have hend : utf8 "\n" = [newline] := by decide
  rw [diagnosticLine, hend]

theorem diagnosticLine_injective : Function.Injective diagnosticLine := by
  intro message message' heq
  rw [diagnosticLine_eq, diagnosticLine_eq] at heq
  exact List.append_cancel_left (List.append_cancel_right heq)

theorem isDiagnostic_diagnosticLine {message : Bytes} (htext : message.IsText)
    (hunbroken : message.Unbroken) : IsDiagnostic (diagnosticLine message) := by
  have hend : Bytes.IsText [newline] := ⟨['\n'], by decide⟩
  refine { text := ?_, oneLine := ⟨message, hunbroken, diagnosticLine_eq message⟩ }
  rw [diagnosticLine_eq]
  exact ((Bytes.isText_utf8 _).append htext).append hend

/-- Diagnostics one behind another are cut into the same ones again. -/
theorem lines_flatten_of_isDiagnostic {ls : List Bytes} (hls : ∀ l ∈ ls, IsDiagnostic l) :
    lines ls.flatten = ls := by
  have hmark : newline ∉ utf8 "$: " := by decide
  refine AreLines.lines_flatten { ne_nil := ?_, newline_notMem := ?_, ends := ?_ }
  · intro l hl
    obtain ⟨message, _, rfl⟩ := (hls l hl).oneLine
    simp
  · intro l hl
    obtain ⟨message, hunbroken, rfl⟩ := (hls l hl).oneLine
    rw [List.dropLast_concat, List.mem_append, not_or]
    exact ⟨hmark, hunbroken.1⟩
  · intro l hl
    obtain ⟨message, _, rfl⟩ := (hls l ((List.dropLast_sublist ls).subset hl)).oneLine
    exact List.getLast?_concat

/-! ## Words -/

/-- A word without delimiters is without them when it has been decoded. -/
theorem isDelimiter_of_mem_lossy {w : Bytes} (hw : ∀ c ∈ w, isDelimiter c = false) :
    ∀ c ∈ lossy w, isDelimiter c = false := by
  have hreplacement : replacement.all (fun c => !isDelimiter c) = true := by decide
  intro c hc
  rcases Text.mem_lossy hc with hmem | hmem
  · exact hw c hmem
  · simpa using List.all_eq_true.1 hreplacement c hmem

/-! ## Failures -/

variable {σ ι : Type}

/-- The words of a line fail, in a state of the operating system: the name that is printed of them,
if one is, and the message. -/
inductive Fails (h : Host σ) (s : σ) : List Bytes → Option Bytes → Bytes → Prop where
  /-- `cd` has no argument. -/
  | alone : Fails h s [utf8 "cd"] none (utf8 "expected argument to \"cd\"")
  /-- The directory is not changed. -/
  | directory {target : Bytes} {rest : List Bytes} {f : Fault}
    (hf : (h.changeDirectory target s).1 = .error f) :
    Fails h s (utf8 "cd" :: target :: rest) (some (lossy target))
      (utf8 "cd: " ++ lossy target ++ utf8 ": " ++ f.message)
  /-- The program is not started. -/
  | program {name : Bytes} {args : List Bytes} {f : Fault} (hname : Builtin.lookup name = none)
    (hf : (h.spawn name args s).1 = .error f) :
    Fails h s (name :: args) (some (lossy name)) (lossy name ++ utf8 ": " ++ f.message)
  /-- The program is started and cannot be waited for. -/
  | waiting {name : Bytes} {args : List Bytes} {pid : Nat} {s' : σ} {made : List WaitResult}
    {f : Fault} (hname : Builtin.lookup name = none) (hspawn : h.spawn name args s = (.ok pid, s'))
    (hends : EndsWaiting (h.conduct pid s').1.waits made (.error f)) :
    Fails h s (name :: args) none
      (utf8 "waiting for process " ++ utf8 (toString pid) ++ utf8 ": " ++ f.message)

/-- The words of a line do not fail, in a state of the operating system. How a program that ran has
ended does not matter. -/
inductive Succeeds (h : Host σ) (s : σ) : List Bytes → Prop where
  | blank : Succeeds h s []
  | exit {args : List Bytes} : Succeeds h s (utf8 "exit" :: args)
  | directory {target : Bytes} {rest : List Bytes} (hc : (h.changeDirectory target s).1 = .ok ()) :
    Succeeds h s (utf8 "cd" :: target :: rest)
  | program {name : Bytes} {args : List Bytes} {pid : Nat} {s' : σ} {made : List WaitResult}
    {status : ChildStatus} (hname : Builtin.lookup name = none)
    (hspawn : h.spawn name args s = (.ok pid, s'))
    (hends : EndsWaiting (h.conduct pid s').1.waits made (.ok status)) :
    Succeeds h s (name :: args)

/-- No line ends within the text of an error of the operating system. -/
structure Host.ErrorsUnbroken (h : Host σ) : Prop where
  changeDirectory : ∀ path s f, (h.changeDirectory path s).1 = .error f → f.message.Unbroken
  spawn : ∀ program args s f, (h.spawn program args s).1 = .error f → f.message.Unbroken
  wait : ∀ pid s number, .failed number ∈ (h.conduct pid s).1.waits →
    (Fault.os number).message.Unbroken

theorem isText_of_mem_numberPieces (n : Int) : ∀ p ∈ numberPieces n, p.IsText := by
  cases n with
  | ofNat n => exact List.forall_mem_singleton.2 (Bytes.isText_utf8 _)
  | negSucc n =>
    exact List.forall_mem_cons.2
      ⟨Bytes.isText_utf8 _, List.forall_mem_singleton.2 (Bytes.isText_utf8 _)⟩

theorem Fault.isText_message (f : Fault) : f.message.IsText := by
  refine Bytes.isText_flatten ?_
  cases f with
  | os n =>
    have hfront : ∀ p ∈ [utf8 n.text, utf8 " (os error "], p.IsText :=
      List.forall_mem_cons.2
        ⟨Bytes.isText_utf8 _, List.forall_mem_singleton.2 (Bytes.isText_utf8 _)⟩
    exact List.forall_mem_append.2
      ⟨List.forall_mem_append.2 ⟨hfront, isText_of_mem_numberPieces n⟩,
        List.forall_mem_singleton.2 (Bytes.isText_utf8 _)⟩
  | _ => exact List.forall_mem_singleton.2 (Bytes.isText_utf8 _)

/-- Waiting fails with an error of the operating system, or because there is no child. -/
theorem EndsWaiting.unbroken {waits made : List WaitResult} {f : Fault}
    (h : EndsWaiting waits made (.error f))
    (hwaits : ∀ number, .failed number ∈ waits → (Fault.os number).message.Unbroken) :
    f.message.Unbroken := by
  cases h with
  | failed hbefore _ => exact hwaits _ (by simp)
  | gone hbefore => decide

theorem succeeds_or_fails (h : Host σ) (s : σ) (ws : List Bytes) :
    Succeeds h s ws ∨ ∃ name? message, Fails h s ws name? message := by
  obtain ⟨effect, hkind⟩ := Effect.exists_kind h ws s
  cases hkind with
  | blank => exact Or.inl .blank
  | exit => exact Or.inl .exit
  | cdAlone => exact Or.inr ⟨_, _, .alone⟩
  | cdChanged hc => exact Or.inl (.directory (congrArg Prod.fst hc))
  | cdRefused hc => exact Or.inr ⟨_, _, .directory (congrArg Prod.fst hc)⟩
  | programRefused hname hspawn => exact Or.inr ⟨_, _, .program hname (congrArg Prod.fst hspawn)⟩
  | programEnded hname hspawn hends => exact Or.inl (.program hname hspawn hends)
  | programLost hname hspawn hends => exact Or.inr ⟨_, _, .waiting hname hspawn hends⟩

section Words

variable {h : Host σ} {s : σ} {ws : List Bytes} {name? : Option Bytes} {message : Bytes}

/-- A name in a message is in one piece. -/
theorem Fails.isDelimiter_of_mem_name (hf : Fails h s ws name? message)
    (hws : ∀ w ∈ ws, ∀ c ∈ w, isDelimiter c = false) :
    ∀ name ∈ name?, ∀ c ∈ name, isDelimiter c = false := by
  intro name hname
  cases hf with
  | alone => cases hname
  | directory _ =>
    cases hname
    exact isDelimiter_of_mem_lossy (hws _ (by simp))
  | program _ _ =>
    cases hname
    exact isDelimiter_of_mem_lossy (hws _ (by simp))
  | waiting _ _ _ => cases hname

theorem Fails.isDiagnostic (hf : Fails h s ws name? message) (hh : h.ErrorsUnbroken)
    (hws : ∀ w ∈ ws, ∀ c ∈ w, isDelimiter c = false) : IsDiagnostic (diagnosticLine message) := by
  have hname := hf.isDelimiter_of_mem_name hws
  have hcolon : (utf8 ": ").Unbroken := by decide
  have htext : ∀ f : Fault, (utf8 ": " ++ f.message).IsText :=
    fun f => (Bytes.isText_utf8 _).append f.isText_message
  cases hf with
  | alone => exact isDiagnostic_diagnosticLine (Bytes.isText_utf8 _) (by decide)
  | @directory target rest f hf =>
    rw [List.append_assoc]
    have hunbroken := Bytes.unbroken_of_isDelimiter (hname _ rfl)
    have hcd : (utf8 "cd: ").Unbroken := by decide
    exact isDiagnostic_diagnosticLine
      (((Bytes.isText_utf8 _).append (Text.isText_lossy target)).append (htext f))
      ((hcd.append hunbroken).append (hcolon.append (hh.changeDirectory _ _ _ hf)))
  | @program name args f _ hf =>
    rw [List.append_assoc]
    have hunbroken := Bytes.unbroken_of_isDelimiter (hname _ rfl)
    exact isDiagnostic_diagnosticLine ((Text.isText_lossy name).append (htext f))
      (hunbroken.append (hcolon.append (hh.spawn _ _ _ _ hf)))
  | @waiting name args pid s' made f _ _ hends =>
    rw [List.append_assoc]
    have hunbroken : (utf8 "waiting for process ").Unbroken := by decide
    have hf := hends.unbroken (hh.wait pid s')
    exact isDiagnostic_diagnosticLine
      (((Bytes.isText_utf8 _).append (Bytes.isText_utf8 _)).append (htext f))
      ((hunbroken.append (unbroken_number pid)).append (hcolon.append hf))

/-! ## What commands do with failures -/

theorem Fails.failure_eq (hf : Fails h s ws name? message) :
    (Effect.ofWords h ws s).failure.map List.flatten = some message := by
  cases hf with
  | alone =>
    have hwording : (BuiltinError.missingArgument (utf8 "cd")).message
        = utf8 "expected argument to \"cd\"" := by decide
    rw [Effect.Kind.cdAlone.eq, ← hwording]
    rfl
  | @directory target rest f hf =>
    have hanswer : h.changeDirectory target s = (.error f, (h.changeDirectory target s).2) := by
      rw [← hf]
    have hwording : utf8 "cd: " = utf8 "cd" ++ utf8 ": " := by decide
    rw [(Effect.Kind.cdRefused hanswer).eq, hwording, ← BuiltinError.message_changeDirectory]
    rfl
  | @program name args f hname hf =>
    have hanswer : h.spawn name args s = (.error f, (h.spawn name args s).2) := by
      rw [← hf]
    rw [(Effect.Kind.programRefused hname hanswer).eq, ← LaunchError.message_spawn]
    rfl
  | @waiting name args pid s' made f hname hspawn hends =>
    rw [(Effect.Kind.programLost hname hspawn hends).eq, ← LaunchError.message_wait]
    rfl

theorem Succeeds.failure_eq (hs : Succeeds h s ws) : (Effect.ofWords h ws s).failure = none := by
  cases hs with
  | blank => rfl
  | exit => rw [Effect.Kind.exit.eq]
  | @directory target rest hc =>
    have hanswer : h.changeDirectory target s = (.ok (), (h.changeDirectory target s).2) := by
      rw [← hc]
    rw [(Effect.Kind.cdChanged hanswer).eq]
  | program hname hspawn hends => rw [(Effect.Kind.programEnded hname hspawn hends).eq]

theorem Succeeds.not_fails (hs : Succeeds h s ws) : ¬ Fails h s ws name? message := by
  intro hf
  have hsome := hf.failure_eq
  rw [hs.failure_eq] at hsome
  cases hsome

theorem Fails.message_unique {name?' : Option Bytes} {message' : Bytes}
    (hf : Fails h s ws name? message) (hf' : Fails h s ws name?' message') : message = message' :=
  Option.some.inj (hf.failure_eq.symm.trans hf'.failure_eq)

end Words

/-- Whether a step is part of telling a diagnostic. -/
def Entry.ofTelling : Entry → Bool
  | .diagnosed .. | .logged (.diagnosticLost _) => true
  | _ => false

/-- In a journal nothing is told. -/
def Journal.Untold (j : Journal) : Prop :=
  ∀ e ∈ j, e.ofTelling = false

namespace Journal.Untold

variable {j k : Journal}

theorem nil : Untold [] := List.forall_mem_nil _

theorem cons {e : Entry} (he : e.ofTelling = false) (hj : j.Untold) : Untold (e :: j) :=
  List.forall_mem_cons.2 ⟨he, hj⟩

theorem append (hj : j.Untold) (hk : k.Untold) : (j ++ k).Untold := by
  intro e he
  rcases List.mem_append.1 he with he | he
  · exact hj e he
  · exact hk e he

theorem diagnosed_eq_nil (hj : j.Untold) : j.diagnosed = [] := by
  refine List.filterMap_eq_nil_iff.2 fun e he => ?_
  cases e with
  | diagnosed line kept => cases hj _ he
  | _ => rfl

theorem diagnostics_eq_nil (hj : j.Untold) : j.diagnostics = [] := by
  refine List.flatMap_eq_nil_iff.2 fun e he => ?_
  cases e with
  | diagnosed line kept => cases hj _ he
  | _ => rfl

theorem of_reading (h : ∀ e ∈ j, e.ofReading) : j.Untold := by
  intro e he
  have hreading := h e he
  cases e with
  | diagnosed line kept => cases hreading
  | logged event => cases event <;> first | rfl | cases hreading
  | _ => rfl

end Journal.Untold

theorem untold_childJournal (program : Bytes) (args : List Bytes) (pid : Nat)
    (printed : List (Stream × Bytes)) (made : List WaitResult) :
    (childJournal program args pid printed made).Untold := by
  intro e he
  have hchild := ofChild_childJournal program args pid printed made e he
  cases e with
  | diagnosed line kept => cases hchild
  | logged event => cases event <;> first | rfl | cases hchild
  | _ => rfl

/-- Asking for a line tells nothing, and neither does its result. -/
theorem untold_asking [LineReader ι] (s : ι) (r : ReadResult) :
    Journal.Untold ((LineReader.readLine prompt s).journal ++ [.read r]) :=
  (Journal.Untold.of_reading (LineReader.ofReading_readLine prompt s)).append (.cons rfl .nil)

theorem untold_exit (ws : List Bytes) : Journal.Untold [.dispatched ws,
    .logged (.runningBuiltin .exit), .logged (.terminationRequested (utf8 "exit"))] :=
  .cons rfl (.cons rfl (.cons rfl .nil))

/-- Apart from telling its failure, a command tells nothing. -/
theorem Effect.untold_ofWords (h : Host σ) (ws : List Bytes) (s : σ) :
    (Effect.ofWords h ws s).journal.Untold := by
  obtain ⟨effect, hkind⟩ := exists_kind h ws s
  rw [hkind.eq]
  cases hkind with
  | programEnded _ _ _ =>
    exact (untold_childJournal _ _ _ _ _).append (.cons rfl .nil)
  | programLost _ _ _ =>
    exact (untold_childJournal _ _ _ _ _).append (.cons rfl .nil)
  | _ => simp [Journal.Untold, Entry.ofTelling]

/-! ## What a sink gets -/

/-- On the way from one state of a sink that accepts everything to another one, messages are told in
full, one after another, and nothing else. -/
structure Tells (before : Sink) (messages : List Bytes) (j : Journal) (after : Sink) : Prop where
  diagnosed : j.diagnosed = messages.map diagnosticLine
  /-- The bytes that are accepted, as the journal has them. -/
  diagnostics : j.diagnostics = (messages.map diagnosticLine).flatten
  /-- The bytes that are accepted, as the sink has them. -/
  accepted : after.accepted.toList
    = before.accepted.toList ++ (messages.map diagnosticLine).flatten
  acceptsAll : after.AcceptsAll

namespace Tells

variable {before between after : Sink} {messages messages' : List Bytes} {j k : Journal}

theorem nil (hj : j.Untold) (hbefore : before.AcceptsAll) : Tells before [] j before where
  diagnosed := hj.diagnosed_eq_nil
  diagnostics := hj.diagnostics_eq_nil
  accepted := by simp
  acceptsAll := hbefore

theorem append (h : Tells before messages j between) (h' : Tells between messages' k after) :
    Tells before (messages ++ messages') (j ++ k) after where
  diagnosed := by rw [Journal.diagnosed_append, h.diagnosed, h'.diagnosed, List.map_append]
  diagnostics := by
    rw [Journal.diagnostics_append, h.diagnostics, h'.diagnostics, List.map_append,
      List.flatten_append]
  accepted := by
    rw [h'.accepted, h.accepted, List.map_append, List.flatten_append, List.append_assoc]
  acceptsAll := h'.acceptsAll

/-- What is told can be read off a journal. -/
theorem unique {before' after' : Sink} (h : Tells before messages j after)
    (h' : Tells before' messages' j after') : messages = messages' :=
  List.map_injective_iff.2 diagnosticLine_injective (h.diagnosed.symm.trans h'.diagnosed)

theorem untold_append (hj : j.Untold) (h : Tells before messages k after)
    (hbefore : before.AcceptsAll) : Tells before messages (j ++ k) after :=
  (Tells.nil hj hbefore).append h

end Tells

theorem tells_report {sink : Sink} (hs : sink.AcceptsAll) (message : List Bytes) :
    Tells sink [message.flatten] (report message sink).1 (report message sink).2 := by
  obtain ⟨hjournal, hsink, haccepted⟩ := report_of_acceptsAll hs message
  exact
    { diagnosed := by rw [hjournal]; rfl
      diagnostics := by rw [hjournal]; simp [Journal.diagnostics]
      accepted := by simpa using haccepted
      acceptsAll := hsink }

theorem tells_tell {sink : Sink} (hs : sink.AcceptsAll) (message : Option (List Bytes)) :
    Tells sink (message.map List.flatten).toList (tell message sink).1 (tell message sink).2 := by
  cases message with
  | none => exact Tells.nil .nil hs
  | some message => exact tells_report hs message

/-! ## Commands one after another -/

/-- The state that an operating system is left in by the words of a line. -/
def Host.behind (h : Host σ) (s : σ) (ws : List Bytes) : σ :=
  (if ws.head? = some (utf8 "exit") then [] else (orderOf ws).toList).foldl h.serve s

/-- The words of lines are carried out one line after another, and those that fail do so with these
messages. -/
inductive Failures (h : Host σ) : σ → List (List Bytes) → List Bytes → Prop where
  | nil {s : σ} : Failures h s [] []
  | succeeds {s : σ} {ws : List Bytes} {wss : List (List Bytes)} {messages : List Bytes}
    (hws : Succeeds h s ws) (hrest : Failures h (h.behind s ws) wss messages) :
    Failures h s (ws :: wss) messages
  | fails {s : σ} {ws : List Bytes} {wss : List (List Bytes)} {messages : List Bytes}
    {name? : Option Bytes} {message : Bytes} (hws : Fails h s ws name? message)
    (hrest : Failures h (h.behind s ws) wss messages) :
    Failures h s (ws :: wss) (message :: messages)

theorem Failures.append {h : Host σ} {s : σ} {wss wss' : List (List Bytes)}
    {messages messages' : List Bytes} (hf : Failures h s wss messages)
    (hf' : Failures h (wss.foldl h.behind s) wss' messages') :
    Failures h s (wss ++ wss') (messages ++ messages') := by
  induction hf with
  | nil => exact hf'
  | succeeds hws _ ih => exact .succeeds hws (ih hf')
  | fails hws _ ih => exact .fails hws (ih hf')

theorem failures_singleton (h : Host σ) (s : σ) (ws : List Bytes) :
    Failures h s [ws] ((Effect.ofWords h ws s).failure.map List.flatten).toList := by
  rcases succeeds_or_fails h s ws with hws | ⟨name?, message, hws⟩
  · rw [hws.failure_eq]
    exact .succeeds hws .nil
  · rw [hws.failure_eq]
    exact .fails hws .nil

theorem Failures.unique {h : Host σ} {s : σ} {wss : List (List Bytes)}
    {messages messages' : List Bytes} (hf : Failures h s wss messages)
    (hf' : Failures h s wss messages') : messages = messages' := by
  induction hf generalizing messages' with
  | nil =>
    cases hf'
    rfl
  | succeeds hws _ ih =>
    cases hf' with
    | succeeds _ hrest' => exact ih hrest'
    | fails hws' _ => exact absurd hws' hws.not_fails
  | fails hws _ ih =>
    cases hf' with
    | succeeds hws' _ => exact absurd hws hws'.not_fails
    | fails hws' hrest' => rw [hws.message_unique hws', ih hrest']

theorem Failures.isDiagnostic {h : Host σ} {s : σ} {wss : List (List Bytes)}
    {messages : List Bytes} (hf : Failures h s wss messages) (hh : h.ErrorsUnbroken)
    (hwss : ∀ ws ∈ wss, ∀ w ∈ ws, ∀ c ∈ w, isDelimiter c = false) :
    ∀ message ∈ messages, IsDiagnostic (diagnosticLine message) := by
  induction hf with
  | nil => simp
  | succeeds _ _ ih => exact ih fun ws hws => hwss ws (List.mem_cons_of_mem _ hws)
  | fails hws _ ih =>
    intro message hmessage
    rcases List.mem_cons.1 hmessage with rfl | hmessage
    · exact hws.isDiagnostic hh (hwss _ List.mem_cons_self)
    · exact ih (fun ws hws => hwss ws (List.mem_cons_of_mem _ hws)) message hmessage

/-- The messages told of what ends a run. -/
def errorMessages {α : Type} : Except ShellError α → List Bytes
  | .ok _ => []
  | .error e => [e.message]

namespace Session

open LineReader (next result)

variable (h : Host σ)

/-- Carrying out a line tells its failure, if it fails, and nothing else. -/
theorem tells_execute (ws : List Bytes) {s : Session σ ι} (hs : s.diagnostics.AcceptsAll) :
    Tells s.diagnostics ((Effect.ofWords h ws s.host).failure.map List.flatten).toList
      (s.execute h ws).journal (s.execute h ws).after.diagnostics := by
  have hdispatched : Journal.Untold [.dispatched ws] := .cons rfl .nil
  have htells := ((tells_tell hs (Effect.ofWords h ws s.host).failure).untold_append
    (Effect.untold_ofWords h ws s.host) hs).untold_append hdispatched hs
  have hjournal : (s.execute h ws).journal
      = [.dispatched ws] ++ ((Effect.ofWords h ws s.host).journal
          ++ (tell (Effect.ofWords h ws s.host).failure s.diagnostics).1) := by
    simp [execute, dispatch_eq_effect]
  have hafter : (s.execute h ws).after.diagnostics
      = (tell (Effect.ofWords h ws s.host).failure s.diagnostics).2 := by
    simp [execute, dispatch_eq_effect]
  rw [hjournal, hafter]
  exact htells

/-- A line that does not fail tells nothing, and only such a line does. -/
theorem succeeds_iff_tells (ws : List Bytes) {s : Session σ ι} (hs : s.diagnostics.AcceptsAll) :
    Succeeds h s.host ws
      ↔ Tells s.diagnostics [] (s.execute h ws).journal (s.execute h ws).after.diagnostics := by
  have htells := tells_execute h ws hs
  constructor
  · intro hws
    rwa [hws.failure_eq] at htells
  · intro hnone
    rcases succeeds_or_fails h s.host ws with hws | ⟨name?, message, hws⟩
    · exact hws
    · rw [hws.failure_eq] at htells
      cases hnone.unique htells

/-- A line that fails tells its failure, and only such a line does. -/
theorem fails_iff_tells (ws : List Bytes) {s : Session σ ι} (hs : s.diagnostics.AcceptsAll)
    (message : Bytes) :
    (∃ name?, Fails h s.host ws name? message)
      ↔ Tells s.diagnostics [message] (s.execute h ws).journal
          (s.execute h ws).after.diagnostics := by
  have htells := tells_execute h ws hs
  constructor
  · rintro ⟨name?, hws⟩
    rwa [hws.failure_eq] at htells
  · intro hone
    rcases succeeds_or_fails h s.host ws with hws | ⟨name?, message', hws⟩
    · rw [hws.failure_eq] at htells
      cases hone.unique htells
    · rw [hws.failure_eq] at htells
      cases hone.unique htells
      exact ⟨name?, hws⟩

section Reader

variable [LineReader ι] {s : Session σ ι} (hs : s.state = .running)

include hs

theorem host_step_eq_behind :
    (step h s).after.host = (step h s).journal.dispatches.foldl h.behind s.host := by
  rw [host_step, orders_step h hs, dispatches_step h hs]
  cases hr : result s.source 0 with
  | line b =>
    by_cases hb : (tokenize b).head? = some (utf8 "exit") <;>
      simp [ReadResult.orders, ReadResult.Stops, ReadResult.words?, Host.behind, hb]
  | endOfInput => simp [ReadResult.orders, ReadResult.Stops, ReadResult.words?]
  | failed cause => simp [ReadResult.orders, ReadResult.Stops, ReadResult.words?]

/-- A step tells the failure of its line, or that there was none to read. -/
theorem exists_tells_step (hsink : s.diagnostics.AcceptsAll) :
    ∃ messages, Failures h s.host (step h s).journal.dispatches messages ∧
      Tells s.diagnostics (messages ++ errorMessages (step h s).result) (step h s).journal
        (step h s).after.diagnostics := by
  have hreading := untold_asking s.source (result s.source 0)
  rw [dispatches_step h hs, step_of_running h hs, List.append_cons]
  cases hr : result s.source 0 with
  | line b =>
    rw [hr] at hreading
    by_cases hb : (tokenize b).head? = some (utf8 "exit")
    · obtain ⟨args, hargs⟩ := List.head?_eq_some_iff.1 hb
      have hexit : Succeeds h s.host (tokenize b) := by
        rw [hargs]
        exact .exit
      rw [handle_line_of_exit h hb]
      exact ⟨[], .succeeds hexit .nil,
        (Tells.nil (untold_exit _) hsink).untold_append hreading hsink⟩
    · have htells := (tells_execute h (tokenize b)
        (s := { s with source := next s.source }) hsink).untold_append hreading hsink
      rw [← List.append_nil (Option.toList _)] at htells
      rw [handle_line_of_ne_exit h hb]
      exact ⟨_, failures_singleton h s.host (tokenize b), htells⟩
  | endOfInput =>
    rw [hr] at hreading
    rw [handle_endOfInput]
    exact ⟨[], .nil, (Tells.nil (.cons rfl .nil) hsink).untold_append hreading hsink⟩
  | failed cause =>
    rw [hr] at hreading
    rw [handle_failed]
    exact ⟨[], .nil,
      ((tells_report hsink _).untold_append (.cons rfl .nil) hsink).untold_append hreading hsink⟩

end Reader

/-- A run that ends tells the failures of its lines and what ended it, if that was a fault. -/
theorem Completes.exists_tells [LineReader ι] {s : Session σ ι}
    {act : Act (Except ShellError Unit) (Session σ ι)} (hact : Completes h s act)
    (hsink : s.diagnostics.AcceptsAll) :
    ∃ messages, Failures h s.host act.journal.dispatches messages ∧
      Tells s.diagnostics (messages ++ errorMessages act.result) act.journal
        act.after.diagnostics := by
  induction hact with
  | stopped _ => exact ⟨[], .nil, Tells.nil .nil hsink⟩
  | @failed s e hs he =>
    obtain ⟨messages, hfailures, htells⟩ := exists_tells_step h hs hsink
    rw [he] at htells
    exact ⟨messages, hfailures, htells⟩
  | @next s st act hs ho _ ih =>
    obtain ⟨messages, hfailures, htells⟩ := exists_tells_step h hs hsink
    rw [ho, errorMessages, List.append_nil] at htells
    obtain ⟨messages', hfailures', htells'⟩ := ih htells.acceptsAll
    rw [host_step_eq_behind h hs] at hfailures'
    refine ⟨messages ++ messages', ?_, ?_⟩
    · rw [Journal.dispatches_append]
      exact hfailures.append hfailures'
    · rw [List.append_assoc]
      exact htells.append htells'

/-- All words that are carried out are words of lines. -/
theorem Completes.exists_line_of_mem_dispatches [LineReader ι] {s : Session σ ι}
    {act : Act (Except ShellError Unit) (Session σ ι)} (hact : Completes h s act) :
    ∀ ws ∈ act.journal.dispatches, ∃ b, ws = tokenize b := by
  have hstep : ∀ {s : Session σ ι}, s.state = .running →
      ∀ ws ∈ (step h s).journal.dispatches, ∃ b, ws = tokenize b := by
    intro s hs ws hws
    rw [dispatches_step h hs] at hws
    cases hr : result s.source 0 with
    | line b =>
      rw [hr] at hws
      exact ⟨b, by simpa [ReadResult.words?] using hws⟩
    | endOfInput =>
      rw [hr] at hws
      cases hws
    | failed cause =>
      rw [hr] at hws
      cases hws
  induction hact with
  | stopped _ => simp
  | failed hs _ => exact hstep hs
  | next hs _ _ ih =>
    intro ws hws
    rw [Journal.dispatches_append, List.mem_append] at hws
    rcases hws with hws | hws
    · exact hstep hs ws hws
    · exact ih ws hws

/-- **Every failure is told in one line, and nothing else is.** Let the texts of the operating
system's errors be without ends of lines, and let the sink accept everything. Of a line of any bytes
nothing is told if it is blank, an `exit` line, a change of directory that is granted or a program
that ran, and the failure is told, in one line of text, if it is a `cd` without an argument, a
change of directory that is refused or a program that could not be started or waited for; the name
that is printed holds no delimiter. So over a whole run there are as many lines in the sink as
commands that failed, in this order, and one more if it was ended by a fault whose text is without
ends of lines. -/
theorem failures_told_line_by_line [LineReader ι] {h : Host σ} (hh : h.ErrorsUnbroken) :
    (∀ s : Session σ ι, s.diagnostics.AcceptsAll → ∀ b : Bytes,
      (Succeeds h s.host (tokenize b)
        ↔ Tells s.diagnostics [] (s.execute h (tokenize b)).journal
            (s.execute h (tokenize b)).after.diagnostics) ∧
      (∀ message, (∃ name?, Fails h s.host (tokenize b) name? message)
        ↔ Tells s.diagnostics [message] (s.execute h (tokenize b)).journal
            (s.execute h (tokenize b)).after.diagnostics) ∧
      (Succeeds h s.host (tokenize b) ∨
        ∃ name? message, Fails h s.host (tokenize b) name? message)) ∧
    (∀ (x : σ) (b : Bytes) (name? : Option Bytes) (message : Bytes),
      Fails h x (tokenize b) name? message →
        IsDiagnostic (diagnosticLine message) ∧ ∀ name ∈ name?, ∀ c ∈ name, isDelimiter c = false) ∧
    ∀ s : Session σ ι, s.diagnostics.AcceptsAll → ∀ act, Completes h s act →
      (∀ cause, act.result = .error (.read cause) → cause.message.Unbroken) →
        ∃ failed,
          (∀ messages, Failures h s.host act.journal.dispatches messages ↔ messages = failed) ∧
          Tells s.diagnostics (failed ++ errorMessages act.result) act.journal
            act.after.diagnostics ∧
          (∀ line ∈ act.journal.diagnosed, IsDiagnostic line) ∧
          lines act.journal.diagnostics = act.journal.diagnosed ∧
          (lines act.journal.diagnostics).length
            = failed.length + match act.result with | .ok _ => 0 | .error _ => 1 := by
  have hwords : ∀ b, ∀ w ∈ tokenize b, ∀ c ∈ w, isDelimiter c = false := by
    intro b w hw
    rw [tokenize_eq_words] at hw
    exact (isWord_of_mem_words hw).isDelimiter_eq_false
  refine ⟨fun s hs b => ⟨succeeds_iff_tells h _ hs, fails_iff_tells h _ hs,
    succeeds_or_fails h s.host _⟩, ?_, ?_⟩
  · intro x b name? message hf
    exact ⟨hf.isDiagnostic hh (hwords b), hf.isDelimiter_of_mem_name (hwords b)⟩
  · intro s hs act hact hread
    obtain ⟨failed, hfailures, htells⟩ := Completes.exists_tells h hact hs
    have hfailed := hfailures.isDiagnostic hh fun ws hws => by
      obtain ⟨b, rfl⟩ := Completes.exists_line_of_mem_dispatches h hact ws hws
      exact hwords b
    have hend : ∀ message ∈ errorMessages act.result, IsDiagnostic (diagnosticLine message) := by
      cases hresult : act.result with
      | ok u => simp [errorMessages]
      | error e =>
        obtain ⟨cause⟩ := e
        intro message hmessage
        obtain rfl : message = (ShellError.read cause).message := List.mem_singleton.1 hmessage
        have hmark : (utf8 "readline: ").Unbroken := by decide
        exact isDiagnostic_diagnosticLine ((Bytes.isText_utf8 _).append cause.isText_message)
          (hmark.append (hread cause hresult))
    have hall : ∀ line ∈ act.journal.diagnosed, IsDiagnostic line := by
      rw [htells.diagnosed]
      intro line hline
      obtain ⟨message, hmessage, rfl⟩ := List.mem_map.1 hline
      rcases List.mem_append.1 hmessage with hmessage | hmessage
      · exact hfailed message hmessage
      · exact hend message hmessage
    have hlines : lines act.journal.diagnostics = act.journal.diagnosed := by
      rw [htells.diagnostics, ← htells.diagnosed]
      exact lines_flatten_of_isDiagnostic hall
    refine ⟨failed, fun messages => ⟨fun hf => hf.unique hfailures, ?_⟩, htells, hall, hlines, ?_⟩
    · rintro rfl
      exact hfailures
    · rw [hlines, htells.diagnosed, List.length_map, List.length_append]
      cases act.result <;> rfl

/-- A run over lines that fail in each of the ways, with bytes that are no text and a carriage
return among them, and over lines that do not fail. It is ended by a fault. -/
theorem failures_told_line_by_line_of_fault :
    let h : Host Unit :=
      { changeDirectory := fun path s =>
          (if path = utf8 "/" then .ok () else .error (.os .noEntry), s)
        spawn := fun program _ s =>
          (if program = utf8 "ls" then .ok 7
            else if program = utf8 "top" then .ok 8 else .error (.os .noEntry), s)
        conduct := fun pid s =>
          (⟨[], if pid = 7 then [.notice (.stopped 19), .notice (.signaled 9 false)]
            else [.interrupted, .failed .noChild]⟩, s) }
    let s : Session Unit ListedSource :=
      { host := (), diagnostics := .unlimited
        source := ⟨[.line (utf8 "cd\n"), .line [], .line (utf8 "cd / x\n"),
          .line (utf8 "cd a" ++ [0xFF, 13] ++ utf8 "b\n"), .line (utf8 "ls -l\n"),
          .line (utf8 "top"), .line (utf8 "caf" ++ [0xE9] ++ utf8 "\n"), .failed (.os 5)]⟩ }
    h.ErrorsUnbroken ∧ s.diagnostics.AcceptsAll ∧ (s.repl h).result = .error (.read (.os 5)) ∧
      ∃ failed, Failures h () (s.repl h).journal.dispatches failed ∧
        (lines (s.repl h).journal.diagnostics).length = failed.length + 1 := by
  intro h s
  have hh : h.ErrorsUnbroken :=
    { changeDirectory := fun path x f hf => by
        simp only [h] at hf
        split at hf
        · cases hf
        · cases hf
          decide
      spawn := fun program args x f hf => by
        simp only [h] at hf
        split at hf
        · cases hf
        · split at hf
          · cases hf
          · cases hf
            decide
      wait := fun pid x number hnumber => by
        simp only [h] at hnumber
        split at hnumber
        · simp at hnumber
        · obtain rfl : number = .noChild := by simpa using hnumber
          decide }
  have hn : LineReader.FirstStop s.source 7 := by
    unfold LineReader.FirstStop
    decide
  have hresult : (s.repl h).result = .error (.read (.os 5)) := by
    rw [repl_eq h rfl hn]
    decide
  have hread : ∀ cause, (s.repl h).result = .error (.read cause) → cause.message.Unbroken := by
    intro cause hcause
    rw [hresult] at hcause
    cases hcause
    decide
  obtain ⟨failed, hfailures, _, _, _, hlength⟩ := (failures_told_line_by_line hh).2.2 s
    Sink.acceptsAll_unlimited _ (completes_repl h s) hread
  rw [hresult] at hlength
  exact ⟨hh, Sink.acceptsAll_unlimited, hresult, failed, (hfailures failed).2 rfl, hlength⟩

end Session

end LineShell
