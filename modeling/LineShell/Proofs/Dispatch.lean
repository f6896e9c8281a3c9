import LineShell.Proofs.Entries
import LineShell.Shell

/-!
# Carrying out the words of a line

Only `exit` asks the loop to stop, whatever the operating system and the sink for diagnostics do,
and the words alone decide what is ordered: at most one change of directory or one start of a
program. Everything that a command leaves in the journal is a command's.
-/

namespace LineShell

variable {σ ι : Type}

/-- What the words of a line order: `cd` with a word behind it changes the directory to that word
and looks at no further one, `cd` alone orders nothing, and every other name starts a program with
all the words behind it. -/
def orderOf : List Bytes → Option Request
  | [] => none
  | name :: args =>
    if name = utf8 "cd" then args.head?.map .changeDirectory else some (.spawn name args)

/-- The state that a host is left in by a request. A program that is started runs until it is
gone. -/
def Host.serve (h : Host σ) (s : σ) : Request → σ
  | .changeDirectory path => (h.changeDirectory path s).2
  | .spawn program args =>
    match h.spawn program args s with
    | (.error _, s') => s'
    | (.ok pid, s') => (h.conduct pid s').2
  | .wait _ => s

/-! ## The four kinds of commands -/

/-- A line is blank, a `cd` line, an `exit` line, or names a program. -/
theorem words_cases (ws : List Bytes) :
    ws = [] ∨ (∃ args, ws = utf8 "cd" :: args) ∨ (∃ args, ws = utf8 "exit" :: args) ∨
      ∃ name args, ws = name :: args ∧ Builtin.lookup name = none := by
  cases ws with
  | nil => exact Or.inl rfl
  | cons name args =>
    cases hb : Builtin.lookup name with
    | none => exact Or.inr (Or.inr (Or.inr ⟨name, args, rfl, hb⟩))
    | some b =>
      have hname := (Builtin.lookup_eq_some_iff name b).1 hb
      cases b with
      | cd => exact Or.inr (Or.inl ⟨args, by rw [hname]; rfl⟩)
      | exit => exact Or.inr (Or.inr (Or.inl ⟨args, by rw [hname]; rfl⟩))

/-- The name of a program is not the name of a builtin. -/
theorem ne_of_lookup_eq_none {name : Bytes} (hname : Builtin.lookup name = none) (b : Builtin) :
    name ≠ b.name := by
  intro hb
  have := (Builtin.lookup_eq_some_iff name b).2 hb
  rw [hname] at this
  cases this

section Equations

variable (h : Host σ) (a : Surroundings σ)

theorem dispatch_program {name : Bytes} (args : List Bytes) (hname : Builtin.lookup name = none) :
    Session.dispatch h (name :: args) a = launch h (name :: args) a := by
  simp only [Session.dispatch]
  rw [hname]

theorem dispatch_cd (args : List Bytes) :
    Session.dispatch h (utf8 "cd" :: args) a
      = ⟨(Builtin.cd.invoke h (utf8 "cd" :: args) a).result,
          .logged (.runningBuiltin .cd) :: (Builtin.cd.invoke h (utf8 "cd" :: args) a).journal,
          (Builtin.cd.invoke h (utf8 "cd" :: args) a).after⟩ := by
  simp only [Session.dispatch]
  rw [(Builtin.lookup_eq_some_iff (utf8 "cd") .cd).2 rfl]

theorem dispatch_exit (args : List Bytes) :
    Session.dispatch h (utf8 "exit" :: args) a
      = ⟨.terminate, [.logged (.runningBuiltin .exit)], a⟩ := by
  simp only [Session.dispatch]
  rw [(Builtin.lookup_eq_some_iff (utf8 "exit") .exit).2 rfl]
  rfl

/-- `cd` alone is told off and changes nothing. -/
theorem invoke_cd_alone (name : Bytes) :
    Builtin.cd.invoke h [name] a
      = ⟨.continue,
          .logged (.builtinFailed .cd (.missingArgument (utf8 "cd")))
            :: (report (BuiltinError.missingArgument (utf8 "cd")).pieces a.diagnostics).1,
          ⟨a.host, (report (BuiltinError.missingArgument (utf8 "cd")).pieces a.diagnostics).2⟩⟩ :=
  rfl

theorem invoke_cd_changed {target : Bytes} {s : σ} (name : Bytes) (rest : List Bytes)
    (hc : h.changeDirectory target a.host = (.ok (), s)) :
    Builtin.cd.invoke h (name :: target :: rest) a
      = ⟨.continue, [.asked (.changeDirectory target), .logged (.directoryChanged target)],
          { a with host := s }⟩ := by
  simp [Builtin.invoke, Builtin.run, hc]

theorem invoke_cd_refused {target : Bytes} {f : Fault} {s : σ} (name : Bytes) (rest : List Bytes)
    (hc : h.changeDirectory target a.host = (.error f, s)) :
    Builtin.cd.invoke h (name :: target :: rest) a
      = ⟨.continue,
          .asked (.changeDirectory target)
            :: .logged (.builtinFailed .cd (.changeDirectory (utf8 "cd") target f))
            :: (report (BuiltinError.changeDirectory (utf8 "cd") target f).pieces
                  a.diagnostics).1,
          ⟨s, (report (BuiltinError.changeDirectory (utf8 "cd") target f).pieces
                a.diagnostics).2⟩⟩ := by
  simp [Builtin.invoke, Builtin.run, hc, Builtin.name]

end Equations

/-! ## The kinds of entries -/

theorem ofCommand_report (message : List Bytes) (sink : Sink) :
    ∀ e ∈ (report message sink).1, e.ofCommand := by
  intro e he
  simp only [report, List.mem_cons, Option.mem_toList, Option.map_eq_some_iff] at he
  rcases he with rfl | ⟨f, _, rfl⟩
  · rfl
  · rfl

theorem ofCommand_awaitEnding (pid : Nat) (waits : List WaitResult) :
    ∀ e ∈ (awaitEnding pid waits).1, e.ofCommand := by
  fun_induction awaitEnding pid waits with
  | case1 => simp [Entry.ofCommand]
  | case2 n rest hn j r hjr ih =>
    rw [hjr] at ih
    simpa [Entry.ofCommand] using ih
  | case3 n rest hn => simp [Entry.ofCommand]
  | case4 rest j r hjr ih =>
    rw [hjr] at ih
    simpa [Entry.ofCommand] using ih
  | case5 n rest status hn => simp [Entry.ofCommand]
  | case6 n rest hn j r hjr ih =>
    rw [hjr] at ih
    simpa [Entry.ofCommand] using ih

theorem ofCommand_runProgram (h : Host σ) (program : Bytes) (args : List Bytes) (s : σ) :
    ∀ e ∈ (runProgram h program args s).journal, e.ofCommand := by
  unfold runProgram
  split
  · simp [Entry.ofCommand]
  · next pid s' hs =>
    have hw := ofCommand_awaitEnding pid (h.conduct pid s').1.waits
    intro e he
    simp only [List.cons_append, List.nil_append, List.mem_cons, List.mem_append,
      List.mem_map] at he
    rcases he with rfl | rfl | ⟨p, _, rfl⟩ | he
    · rfl
    · rfl
    · rfl
    · exact hw e he

/-- A failure that is noted and told is still part of the command. -/
theorem ofCommand_failure {j : Journal} (hj : ∀ e ∈ j, e.ofCommand) {event : Event}
    (hevent : (Entry.logged event).ofCommand) (message : List Bytes) (sink : Sink) :
    ∀ e ∈ j ++ .logged event :: (report message sink).1, e.ofCommand := by
  intro e he
  rcases List.mem_append.1 he with he | he
  · exact hj e he
  · rcases List.mem_cons.1 he with rfl | he
    · exact hevent
    · exact ofCommand_report message sink e he

theorem ofCommand_launch (h : Host σ) (ws : List Bytes) (a : Surroundings σ) :
    ∀ e ∈ (launch h ws a).journal, e.ofCommand := by
  unfold launch
  split
  · simp
  · next program args =>
    have hrun := ofCommand_runProgram h program args a.host
    split
    · next status j s hr =>
      rw [hr] at hrun
      intro e he
      rcases List.mem_append.1 he with he | he
      · exact hrun e he
      · rw [List.mem_singleton.1 he]
        rfl
    · next err j s hr =>
      rw [hr] at hrun
      exact ofCommand_failure hrun rfl _ _

theorem ofCommand_run (h : Host σ) (b : Builtin) (ws : List Bytes) (s : σ) :
    ∀ e ∈ (b.run h ws s).journal, e.ofCommand := by
  unfold Builtin.run
  split
  · simp
  · simp
  · split <;> simp [Entry.ofCommand]

theorem ofCommand_invoke (h : Host σ) (b : Builtin) (ws : List Bytes) (a : Surroundings σ) :
    ∀ e ∈ (b.invoke h ws a).journal, e.ofCommand := by
  have hrun := ofCommand_run h b ws a.host
  unfold Builtin.invoke
  split
  · next outcome j s hr =>
    rw [hr] at hrun
    exact hrun
  · next err j s hr =>
    rw [hr] at hrun
    exact ofCommand_failure hrun rfl _ _

theorem ofCommand_dispatch (h : Host σ) (ws : List Bytes) (a : Surroundings σ) :
    ∀ e ∈ (Session.dispatch h ws a).journal, e.ofCommand := by
  unfold Session.dispatch
  split
  · simp
  · next name args =>
    split
    · next b hb =>
      intro e he
      rcases List.mem_cons.1 he with rfl | he
      · rfl
      · exact ofCommand_invoke h b _ a e he
    · exact ofCommand_launch h _ a

/-! ## What is ordered -/

theorem orders_report (message : List Bytes) (sink : Sink) :
    (report message sink).1.orders = [] := by
  simp only [report, Journal.orders_cons, List.nil_append]
  refine List.filterMap_eq_nil_iff.2 fun e he => ?_
  simp only [Option.mem_toList, Option.map_eq_some_iff] at he
  obtain ⟨f, _, rfl⟩ := he
  rfl

theorem orders_awaitEnding (pid : Nat) (waits : List WaitResult) :
    (awaitEnding pid waits).1.orders = [] := by
  fun_induction awaitEnding pid waits with
  | case1 => rfl
  | case2 n rest hn j r hjr ih =>
    rw [hjr] at ih
    simpa using ih
  | case3 n rest hn => rfl
  | case4 rest j r hjr ih =>
    rw [hjr] at ih
    simpa using ih
  | case5 n rest status hn => rfl
  | case6 n rest hn j r hjr ih =>
    rw [hjr] at ih
    simpa using ih

theorem orders_printed (printed : List (Stream × Bytes)) :
    Journal.orders (printed.map fun (stream, b) => .printed stream b) = [] := by
  induction printed with
  | nil => rfl
  | cons p rest ih => simpa using ih

/-- Running a program is one order, whatever becomes of it. -/
theorem orders_runProgram (h : Host σ) (program : Bytes) (args : List Bytes) (s : σ) :
    (runProgram h program args s).journal.orders = [.spawn program args] := by
  unfold runProgram
  split
  · rfl
  · next pid s' hs => simp [orders_printed, orders_awaitEnding]

theorem orders_launch (h : Host σ) (program : Bytes) (args : List Bytes) (a : Surroundings σ) :
    (launch h (program :: args) a).journal.orders = [.spawn program args] := by
  have hrun := orders_runProgram h program args a.host
  simp only [launch]
  split
  · next status j s hr =>
    rw [hr] at hrun
    simpa using hrun
  · next err j s hr =>
    rw [hr] at hrun
    simpa [orders_report] using hrun

/-- `cd` orders the change to its first argument, if it has one. -/
theorem orders_invoke_cd (h : Host σ) (name : Bytes) (args : List Bytes) (a : Surroundings σ) :
    (Builtin.cd.invoke h (name :: args) a).journal.orders
      = (args.head?.map Request.changeDirectory).toList := by
  cases args with
  | nil => simp [invoke_cd_alone, orders_report]
  | cons target rest =>
    rcases hc : h.changeDirectory target a.host with ⟨answer, s⟩
    cases answer with
    | ok u => simp [invoke_cd_changed h a name rest hc]
    | error f => simp [invoke_cd_refused h a name rest hc, orders_report]

/-- The words of a line alone decide what is ordered; `exit` orders nothing. -/
theorem orders_dispatch (h : Host σ) (ws : List Bytes) (a : Surroundings σ) :
    (Session.dispatch h ws a).journal.orders
      = if ws.head? = some (utf8 "exit") then [] else (orderOf ws).toList := by
  rcases words_cases ws with rfl | ⟨args, rfl⟩ | ⟨args, rfl⟩ | ⟨name, args, rfl, hname⟩
  · rfl
  · have hne : utf8 "cd" ≠ utf8 "exit" := by decide
    simp [dispatch_cd, orders_invoke_cd, orderOf, hne]
  · simp [dispatch_exit]
  · have hcd : name ≠ utf8 "cd" := ne_of_lookup_eq_none hname .cd
    have hexit : name ≠ utf8 "exit" := ne_of_lookup_eq_none hname .exit
    simp [dispatch_program h a args hname, orders_launch, orderOf, hcd, hexit]

/-! ## What becomes of the host -/

theorem after_runProgram (h : Host σ) (program : Bytes) (args : List Bytes) (s : σ) :
    (runProgram h program args s).after = h.serve s (.spawn program args) := by
  rcases hs : h.spawn program args s with ⟨answer, s'⟩
  cases answer with
  | ok pid => simp [runProgram, Host.serve, hs]
  | error f => simp [runProgram, Host.serve, hs]

theorem host_launch (h : Host σ) (program : Bytes) (args : List Bytes) (a : Surroundings σ) :
    (launch h (program :: args) a).after.host = h.serve a.host (.spawn program args) := by
  have hrun := after_runProgram h program args a.host
  simp only [launch]
  split
  · next status j s hr =>
    rw [hr] at hrun
    exact hrun
  · next err j s hr =>
    rw [hr] at hrun
    exact hrun

theorem host_invoke_cd (h : Host σ) (name : Bytes) (args : List Bytes) (a : Surroundings σ) :
    (Builtin.cd.invoke h (name :: args) a).after.host
      = (args.head?.map Request.changeDirectory).toList.foldl h.serve a.host := by
  cases args with
  | nil => rfl
  | cons target rest =>
    rcases hc : h.changeDirectory target a.host with ⟨answer, s⟩
    cases answer with
    | ok u => simp [invoke_cd_changed h a name rest hc, Host.serve, hc]
    | error f => simp [invoke_cd_refused h a name rest hc, Host.serve, hc]

/-- What is ordered is all that the host hears of a line. -/
theorem host_dispatch (h : Host σ) (ws : List Bytes) (a : Surroundings σ) :
    (Session.dispatch h ws a).after.host
      = (Session.dispatch h ws a).journal.orders.foldl h.serve a.host := by
  rcases words_cases ws with rfl | ⟨args, rfl⟩ | ⟨args, rfl⟩ | ⟨name, args, rfl, hname⟩
  · rfl
  · simp [dispatch_cd, orders_invoke_cd, host_invoke_cd]
  · simp [dispatch_exit]
  · simp [dispatch_program h a args hname, orders_launch, host_launch]

/-! ## What stops the loop -/

theorem result_launch (h : Host σ) (ws : List Bytes) (a : Surroundings σ) :
    (launch h ws a).result = .continue := by
  unfold launch
  split
  · rfl
  · split <;> rfl

theorem result_invoke_cd (h : Host σ) (name : Bytes) (args : List Bytes) (a : Surroundings σ) :
    (Builtin.cd.invoke h (name :: args) a).result = .continue := by
  cases args with
  | nil => rfl
  | cons target rest =>
    rcases hc : h.changeDirectory target a.host with ⟨answer, s⟩
    cases answer with
    | ok u => rw [invoke_cd_changed h a name rest hc]
    | error f => rw [invoke_cd_refused h a name rest hc]

/-- Only `exit` asks the loop to stop. -/
theorem result_dispatch_eq_terminate (h : Host σ) (ws : List Bytes) (a : Surroundings σ) :
    (Session.dispatch h ws a).result = .terminate ↔ ws.head? = some (utf8 "exit") := by
  rcases words_cases ws with rfl | ⟨args, rfl⟩ | ⟨args, rfl⟩ | ⟨name, args, rfl, hname⟩
  · simp [Session.dispatch]
  · have hne : utf8 "cd" ≠ utf8 "exit" := by decide
    simp [dispatch_cd, result_invoke_cd, hne]
  · simp [dispatch_exit]
  · have hexit : name ≠ utf8 "exit" := ne_of_lookup_eq_none hname .exit
    simp [dispatch_program h a args hname, result_launch, hexit]

namespace Session

variable (h : Host σ) (ws : List Bytes) (s : Session σ ι)

/-! ## In a session -/

theorem result_execute_eq_terminate :
    (s.execute h ws).result = .terminate ↔ ws.head? = some (utf8 "exit") :=
  result_dispatch_eq_terminate h ws s.toSurroundings

theorem result_execute_eq_continue :
    (s.execute h ws).result = .continue ↔ ws.head? ≠ some (utf8 "exit") := by
  rw [Ne, ← result_execute_eq_terminate h ws s]
  cases (s.execute h ws).result <;> simp

@[simp] theorem state_execute : (s.execute h ws).after.state = s.state := rfl

@[simp] theorem source_execute : (s.execute h ws).after.source = s.source := rfl

@[simp] theorem reads_execute : (s.execute h ws).journal.reads = [] := by
  simp [execute, Journal.reads_of_command (ofCommand_dispatch h ws s.toSurroundings)]

@[simp] theorem dispatches_execute : (s.execute h ws).journal.dispatches = [ws] := by
  simp [execute, Journal.dispatches_of_command (ofCommand_dispatch h ws s.toSurroundings)]

theorem orders_execute :
    (s.execute h ws).journal.orders
      = if ws.head? = some (utf8 "exit") then [] else (orderOf ws).toList := by
  simp [execute, orders_dispatch]

theorem host_execute :
    (s.execute h ws).after.host = (s.execute h ws).journal.orders.foldl h.serve s.host := by
  have hhost := host_dispatch h ws s.toSurroundings
  simpa [execute] using hhost

end Session

end LineShell
