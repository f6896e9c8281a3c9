import LineShell.Proofs.Step
import LineShell.Proofs.Waiting
import LineShell.Proofs.Writing

/-!
# What a command does, apart from telling its failure

Carrying out the words of a line has two parts. The first one is up to the operating system alone:
whether the loop goes on, what is seen of the command, the message of its failure if it fails, and
the state that the operating system is left in; there are eight kinds of it (`Effect.Kind`). The
second one tells the message. So the sink for diagnostics has no say in the first part
(`dispatch_eq_effect`), and if it accepts everything, in nothing at all.
-/

namespace LineShell

/-- What carrying out words does, apart from telling a failure. -/
structure Effect (σ : Type) where
  outcome : Outcome
  /-- What is seen of it before its failure is told. -/
  journal : Journal
  /-- The message of its failure, in pieces, if it fails. -/
  failure : Option (List Bytes)
  host : σ

namespace Effect

variable {σ : Type}

/-- The journal of an effect whose failure is told in full. -/
def fullJournal (e : Effect σ) : Journal :=
  e.journal ++ (e.failure.map fun message =>
    .diagnosed (diagnosticLine message.flatten) (diagnosticLine message.flatten).length).toList

/-- What a builtin does, apart from telling its failure. -/
def ofBuiltin (h : Host σ) (b : Builtin) (ws : List Bytes) (s : σ) : Effect σ :=
  match b.run h ws s with
  | ⟨.ok outcome, j, s'⟩ => ⟨outcome, .logged (.runningBuiltin b) :: j, none, s'⟩
  | ⟨.error e, j, s'⟩ =>
    ⟨.continue, .logged (.runningBuiltin b) :: j ++ [.logged (.builtinFailed b e)],
      some e.pieces, s'⟩

/-- What a program does, apart from telling its failure. -/
def ofProgram (h : Host σ) (program : Bytes) (args : List Bytes) (s : σ) : Effect σ :=
  match runProgram h program args s with
  | ⟨.ok status, j, s'⟩ => ⟨.continue, j ++ [.logged (.childFinished status)], none, s'⟩
  | ⟨.error e, j, s'⟩ => ⟨.continue, j ++ [.logged (.launchFailed e)], some e.pieces, s'⟩

/-- What the words of a line do, apart from telling a failure. -/
def ofWords (h : Host σ) (ws : List Bytes) (s : σ) : Effect σ :=
  match ws with
  | [] => ⟨.continue, [], none, s⟩
  | name :: args =>
    match Builtin.lookup name with
    | some b => ofBuiltin h b ws s
    | none => ofProgram h name args s

/-- All that the words of a line can do. -/
inductive Kind (h : Host σ) (s : σ) : List Bytes → Effect σ → Prop where
  | blank : Kind h s [] ⟨.continue, [], none, s⟩
  | exit {args : List Bytes} :
    Kind h s (utf8 "exit" :: args) ⟨.terminate, [.logged (.runningBuiltin .exit)], none, s⟩
  | cdAlone :
    Kind h s [utf8 "cd"]
      ⟨.continue,
        [.logged (.runningBuiltin .cd),
          .logged (.builtinFailed .cd (.missingArgument (utf8 "cd")))],
        some (BuiltinError.missingArgument (utf8 "cd")).pieces, s⟩
  | cdChanged {target : Bytes} {rest : List Bytes} {s' : σ}
    (hc : h.changeDirectory target s = (.ok (), s')) :
    Kind h s (utf8 "cd" :: target :: rest)
      ⟨.continue,
        [.logged (.runningBuiltin .cd), .asked (.changeDirectory target),
          .logged (.directoryChanged target)],
        none, s'⟩
  | cdRefused {target : Bytes} {rest : List Bytes} {f : Fault} {s' : σ}
    (hc : h.changeDirectory target s = (.error f, s')) :
    Kind h s (utf8 "cd" :: target :: rest)
      ⟨.continue,
        [.logged (.runningBuiltin .cd), .asked (.changeDirectory target),
          .logged (.builtinFailed .cd (.changeDirectory (utf8 "cd") target f))],
        some (BuiltinError.changeDirectory (utf8 "cd") target f).pieces, s'⟩
  | programRefused {name : Bytes} {args : List Bytes} {f : Fault} {s' : σ}
    (hname : Builtin.lookup name = none) (hspawn : h.spawn name args s = (.error f, s')) :
    Kind h s (name :: args)
      ⟨.continue, [.asked (.spawn name args), .logged (.launchFailed (.spawn name f))],
        some (LaunchError.spawn name f).pieces, s'⟩
  | programEnded {name : Bytes} {args : List Bytes} {pid : Nat} {s' : σ} {made : List WaitResult}
    {status : ChildStatus} (hname : Builtin.lookup name = none)
    (hspawn : h.spawn name args s = (.ok pid, s'))
    (hends : EndsWaiting (h.conduct pid s').1.waits made (.ok status)) :
    Kind h s (name :: args)
      ⟨.continue, childJournal name args pid (h.conduct pid s').1.printed made
        ++ [.logged (.childFinished status)], none, (h.conduct pid s').2⟩
  | programLost {name : Bytes} {args : List Bytes} {pid : Nat} {s' : σ} {made : List WaitResult}
    {f : Fault} (hname : Builtin.lookup name = none)
    (hspawn : h.spawn name args s = (.ok pid, s'))
    (hends : EndsWaiting (h.conduct pid s').1.waits made (.error f)) :
    Kind h s (name :: args)
      ⟨.continue, childJournal name args pid (h.conduct pid s').1.printed made
        ++ [.logged (.launchFailed (.wait pid f))], some (LaunchError.wait pid f).pieces,
        (h.conduct pid s').2⟩

theorem Kind.eq {h : Host σ} {s : σ} {ws : List Bytes} {e : Effect σ} (he : Kind h s ws e) :
    ofWords h ws s = e := by
  have hcd : Builtin.lookup (utf8 "cd") = some .cd := (Builtin.lookup_eq_some_iff _ .cd).2 rfl
  have hexit : Builtin.lookup (utf8 "exit") = some .exit :=
    (Builtin.lookup_eq_some_iff _ .exit).2 rfl
  cases he with
  | blank => rfl
  | exit =>
    simp only [ofWords, hexit]
    rfl
  | cdAlone =>
    simp only [ofWords, hcd]
    rfl
  | cdChanged hc =>
    simp only [ofWords, hcd]
    simp [ofBuiltin, Builtin.run, hc]
  | cdRefused hc =>
    simp only [ofWords, hcd]
    simp [ofBuiltin, Builtin.run, hc, Builtin.name]
  | programRefused hname hspawn =>
    simp only [ofWords, hname, ofProgram, runProgram_of_refused hspawn]
    rfl
  | programEnded hname hspawn hends =>
    simp only [ofWords, hname, ofProgram, runProgram_of_spawned hspawn hends, mapError_ok]
  | programLost hname hspawn hends =>
    simp only [ofWords, hname, ofProgram, runProgram_of_spawned hspawn hends, mapError_error]

theorem exists_kind (h : Host σ) (ws : List Bytes) (s : σ) : ∃ e, Kind h s ws e := by
  rcases words_cases ws with rfl | ⟨args, rfl⟩ | ⟨args, rfl⟩ | ⟨name, args, rfl, hname⟩
  · exact ⟨_, .blank⟩
  · cases args with
    | nil => exact ⟨_, .cdAlone⟩
    | cons target rest =>
      rcases hc : h.changeDirectory target s with ⟨answer, s'⟩
      cases answer with
      | ok u => exact ⟨_, .cdChanged hc⟩
      | error f => exact ⟨_, .cdRefused hc⟩
  · exact ⟨_, .exit⟩
  · rcases hspawn : h.spawn name args s with ⟨answer, s'⟩
    cases answer with
    | error f => exact ⟨_, .programRefused hname hspawn⟩
    | ok pid =>
      obtain ⟨made, ending, hends⟩ := exists_endsWaiting (h.conduct pid s').1.waits
      cases ending with
      | ok status => exact ⟨_, .programEnded hname hspawn hends⟩
      | error f => exact ⟨_, .programLost hname hspawn hends⟩

/-- What the words of several lines do, one after another, when every failure is told in full. -/
def ofCommands (h : Host σ) : List (List Bytes) → σ → Journal × σ
  | [], s => ([], s)
  | ws :: rest, s =>
    ((ofWords h ws s).fullJournal ++ (ofCommands h rest (ofWords h ws s).host).1,
      (ofCommands h rest (ofWords h ws s).host).2)

theorem ofCommands_append (h : Host σ) (wss wss' : List (List Bytes)) (s : σ) :
    ofCommands h (wss ++ wss') s
      = ((ofCommands h wss s).1 ++ (ofCommands h wss' (ofCommands h wss s).2).1,
          (ofCommands h wss' (ofCommands h wss s).2).2) := by
  induction wss generalizing s with
  | nil => rfl
  | cons ws rest ih => simp only [List.cons_append, ofCommands, ih, List.append_assoc]

end Effect

/-- Tell a message, if there is one. -/
def tell (message : Option (List Bytes)) (sink : Sink) : Journal × Sink :=
  match message with
  | none => ([], sink)
  | some message => report message sink

theorem tell_of_acceptsAll {sink : Sink} (hs : sink.AcceptsAll) (message : Option (List Bytes)) :
    (tell message sink).1
        = (message.map fun m =>
            .diagnosed (diagnosticLine m.flatten) (diagnosticLine m.flatten).length).toList ∧
      (tell message sink).2.AcceptsAll ∧
      (tell message sink).2.accepted.toList
        = sink.accepted.toList
          ++ (message.map fun m => diagnosticLine m.flatten).toList.flatten := by
  cases message with
  | none => exact ⟨rfl, hs, by simp [tell]⟩
  | some m =>
    obtain ⟨hjournal, hsink, haccepted⟩ := report_of_acceptsAll hs m
    exact ⟨hjournal, hsink, by simpa [tell] using haccepted⟩

namespace Session

variable {σ : Type} (h : Host σ) (ws : List Bytes) (a : Surroundings σ)

/-- The operating system and the sink for diagnostics play their parts one after the other. -/
theorem dispatch_eq_effect :
    dispatch h ws a
      = ⟨(Effect.ofWords h ws a.host).outcome,
          (Effect.ofWords h ws a.host).journal
            ++ (tell (Effect.ofWords h ws a.host).failure a.diagnostics).1,
          ⟨(Effect.ofWords h ws a.host).host,
            (tell (Effect.ofWords h ws a.host).failure a.diagnostics).2⟩⟩ := by
  cases ws with
  | nil => rfl
  | cons name args =>
    simp only [dispatch, Effect.ofWords]
    cases hb : Builtin.lookup name with
    | some b =>
      simp only [Builtin.invoke, Effect.ofBuiltin]
      rcases b.run h (name :: args) a.host with ⟨result, j, s⟩
      cases result with
      | ok outcome => simp [tell]
      | error e => simp [tell]
    | none =>
      simp only [launch, Effect.ofProgram]
      rcases runProgram h name args a.host with ⟨result, j, s⟩
      cases result with
      | ok status => simp [tell]
      | error e => simp [tell]

/-- With a sink that accepts everything, a failure is told in full. -/
theorem dispatch_of_acceptsAll (ha : a.diagnostics.AcceptsAll) :
    (dispatch h ws a).journal = (Effect.ofWords h ws a.host).fullJournal ∧
      (dispatch h ws a).after.host = (Effect.ofWords h ws a.host).host ∧
      (dispatch h ws a).after.diagnostics.AcceptsAll := by
  obtain ⟨hjournal, hsink, _⟩ := tell_of_acceptsAll ha (Effect.ofWords h ws a.host).failure
  rw [dispatch_eq_effect]
  exact ⟨congrArg _ hjournal, rfl, hsink⟩

end Session

end LineShell
