import LineShell.Command.External

/-!
# Waiting for a child

Waits on a child are made one after another until one brings the child's ending or fails. What the
others bring, interruptions and notices of a child that is still there, only makes the shell wait
again, however many of them there are (`awaitEnding_of_passes`). So waiting comes to its end in one
of three ways (`exists_endsWaiting`), and the waits that were made are known from it
(`EndsWaiting.awaitEnding_eq`, `runProgram_of_spawned`). Of all the notices about a child the first
one that is an ending is the one that the shell goes by (`launch_reports_first_ending`).
-/

namespace LineShell

namespace WaitResult

/-- Whether a wait with this result is followed by another one. -/
def Passes : WaitResult → Prop
  | notice n => n.ending = none
  | interrupted => True
  | failed number => (Fault.os number).isInterruption

instance : DecidablePred Passes
  | notice n => inferInstanceAs (Decidable (n.ending = none))
  | interrupted => inferInstanceAs (Decidable True)
  | failed number => inferInstanceAs (Decidable ((Fault.os number).isInterruption = true))

/-- What a wait on a child with this result leaves in the journal. -/
def entries (pid : Nat) : WaitResult → Journal
  | notice n => [.asked (.wait pid), .logged (.childWaited pid n)]
  | interrupted => [.asked (.wait pid)]
  | failed _ => [.asked (.wait pid)]

end WaitResult

/-- Results that pass are waited through. -/
theorem awaitEnding_of_passes (pid : Nat) {before : List WaitResult}
    (hbefore : ∀ r ∈ before, r.Passes) (rest : List WaitResult) :
    awaitEnding pid (before ++ rest)
      = (before.flatMap (WaitResult.entries pid) ++ (awaitEnding pid rest).1,
          (awaitEnding pid rest).2) := by
  induction before with
  | nil => rfl
  | cons r before ih =>
    have hr := hbefore r List.mem_cons_self
    have hrest := ih fun r' hr' => hbefore r' (List.mem_cons_of_mem r hr')
    cases r with
    | notice n =>
      have hn : n.ending = none := hr
      simp [awaitEnding, hn, hrest, WaitResult.entries]
    | interrupted => simp [awaitEnding, hrest, WaitResult.entries]
    | failed number =>
      have hnumber : (Fault.os number).isInterruption = true := hr
      simp [awaitEnding, hnumber, hrest, WaitResult.entries]

/-- How waiting for a child ends, when successive waits give these results: the results of the waits
that are made, and what comes of them. -/
inductive EndsWaiting : List WaitResult → List WaitResult → Except Fault ChildStatus → Prop where
  /-- With the first notice of an ending. -/
  | ended {before : List WaitResult} {n : Notice} {status : ChildStatus} {rest : List WaitResult}
    (hbefore : ∀ r ∈ before, r.Passes) (hn : n.ending = some status) :
    EndsWaiting (before ++ .notice n :: rest) (before ++ [.notice n]) (.ok status)
  /-- With a wait that fails and was not interrupted. -/
  | failed {before : List WaitResult} {number : Errno} {rest : List WaitResult}
    (hbefore : ∀ r ∈ before, r.Passes) (hnumber : ¬ (Fault.os number).isInterruption) :
    EndsWaiting (before ++ .failed number :: rest) (before ++ [.failed number])
      (.error (.os number))
  /-- With a wait for which there is no child any more. -/
  | gone {before : List WaitResult} (hbefore : ∀ r ∈ before, r.Passes) :
    EndsWaiting before (before ++ [.failed .noChild]) (.error (.os .noChild))

theorem exists_endsWaiting (waits : List WaitResult) :
    ∃ made ending, EndsWaiting waits made ending := by
  induction waits with
  | nil => exact ⟨_, _, .gone (List.forall_mem_nil _)⟩
  | cons r waits ih =>
    by_cases hr : r.Passes
    · -- one more result passes in front of those that do
      have hmore : ∀ {before : List WaitResult}, (∀ r' ∈ before, r'.Passes) →
          ∀ r' ∈ r :: before, r'.Passes := by
        intro before hbefore r' hr'
        rcases List.mem_cons.1 hr' with rfl | hr'
        · exact hr
        · exact hbefore r' hr'
      obtain ⟨made, ending, hends⟩ := ih
      cases hends with
      | ended hbefore hn => exact ⟨_, _, .ended (hmore hbefore) hn⟩
      | failed hbefore hnumber => exact ⟨_, _, .failed (hmore hbefore) hnumber⟩
      | gone hbefore => exact ⟨_, _, .gone (hmore hbefore)⟩
    · cases r with
      | notice n =>
        obtain ⟨status, hn⟩ := Option.ne_none_iff_exists'.1 hr
        exact ⟨_, _, .ended (List.forall_mem_nil _) hn⟩
      | interrupted => exact absurd trivial hr
      | failed number => exact ⟨_, _, .failed (List.forall_mem_nil _) hr⟩

@[simp] theorem mapError_ok {ε ε' α : Type} (f : ε → ε') (a : α) :
    (Except.ok a : Except ε α).mapError f = .ok a := rfl

@[simp] theorem mapError_error {ε ε' α : Type} (f : ε → ε') (e : ε) :
    (Except.error e : Except ε α).mapError f = .error (f e) := rfl

/-- The waits are made on that child and on no other one. -/
theorem EndsWaiting.awaitEnding_eq {waits made : List WaitResult}
    {ending : Except Fault ChildStatus} (h : EndsWaiting waits made ending) (pid : Nat) :
    awaitEnding pid waits
      = (made.flatMap (WaitResult.entries pid), ending.mapError (LaunchError.wait pid)) := by
  cases h with
  | ended hbefore hn =>
    rw [awaitEnding_of_passes pid hbefore, List.flatMap_append]
    simp [awaitEnding, hn, WaitResult.entries]
  | failed hbefore hnumber =>
    rw [awaitEnding_of_passes pid hbefore, List.flatMap_append]
    simp [awaitEnding, hnumber, WaitResult.entries]
  | gone hbefore =>
    have hmade := awaitEnding_of_passes pid hbefore []
    rw [List.append_nil] at hmade
    rw [hmade, List.flatMap_append]
    simp [awaitEnding, WaitResult.entries]

/-- Waits that come to an ending come to no other one, and they do not fail. -/
theorem EndsWaiting.ending_unique {waits made made' : List WaitResult}
    {ending ending' : Except Fault ChildStatus} (h : EndsWaiting waits made ending)
    (h' : EndsWaiting waits made' ending') : ending = ending' := by
  have heq := congrArg Prod.snd ((h.awaitEnding_eq 0).symm.trans (h'.awaitEnding_eq 0))
  cases ending <;> cases ending' <;> simp_all

/-- The wait that brings the ending is the last one that is made, and all others pass. -/
theorem EndsWaiting.exists_notice {waits made : List WaitResult} {status : ChildStatus}
    (h : EndsWaiting waits made (.ok status)) :
    ∃ before n, made = before ++ [.notice n] ∧ (∀ r ∈ before, r.Passes) ∧
      n.ending = some status := by
  cases h with
  | ended hbefore hn => exact ⟨_, _, rfl, hbefore, hn⟩

/-! ## Running a program -/

/-- Whether a step may be part of running a program and waiting for it. -/
def Entry.ofChild : Entry → Bool
  | .asked _ | .printed .. | .logged (.childSpawned ..) | .logged (.childWaited ..) => true
  | _ => false

theorem WaitResult.ofChild_entries (pid : Nat) (r : WaitResult) :
    ∀ e ∈ r.entries pid, e.ofChild := by
  cases r with
  | notice n => exact List.forall_mem_cons.2 ⟨rfl, List.forall_mem_singleton.2 rfl⟩
  | interrupted => exact List.forall_mem_singleton.2 rfl
  | failed number => exact List.forall_mem_singleton.2 rfl

section Run

variable {σ : Type} {h : Host σ} {program : Bytes} {args : List Bytes} {s s' : σ}

/-- A program that cannot be started leaves its request, and nothing to wait for. -/
theorem runProgram_of_refused {f : Fault} (hspawn : h.spawn program args s = (.error f, s')) :
    runProgram h program args s
      = ⟨.error (.spawn program f), [.asked (.spawn program args)], s'⟩ := by
  simp only [runProgram, hspawn]

/-- What a program that is started and waited for leaves in the journal. -/
def childJournal (program : Bytes) (args : List Bytes) (pid : Nat)
    (printed : List (Stream × Bytes)) (made : List WaitResult) : Journal :=
  [.asked (.spawn program args), .logged (.childSpawned pid program)]
    ++ printed.map (fun (stream, b) => .printed stream b)
    ++ made.flatMap (WaitResult.entries pid)

theorem ofChild_childJournal (program : Bytes) (args : List Bytes) (pid : Nat)
    (printed : List (Stream × Bytes)) (made : List WaitResult) :
    ∀ e ∈ childJournal program args pid printed made, e.ofChild := by
  refine List.forall_mem_append.2 ⟨List.forall_mem_append.2 ⟨?_, ?_⟩, ?_⟩
  · -- its start
    exact List.forall_mem_cons.2 ⟨rfl, List.forall_mem_singleton.2 rfl⟩
  · -- what it prints
    intro e he
    obtain ⟨_, _, rfl⟩ := List.mem_map.1 he
    rfl
  · -- the waits
    intro e he
    obtain ⟨r, _, he⟩ := List.mem_flatMap.1 he
    exact r.ofChild_entries pid e he

/-- A program that is started is waited for. -/
theorem runProgram_of_spawned {pid : Nat} {made : List WaitResult}
    {ending : Except Fault ChildStatus} (hspawn : h.spawn program args s = (.ok pid, s'))
    (hends : EndsWaiting (h.conduct pid s').1.waits made ending) :
    runProgram h program args s
      = ⟨ending.mapError (LaunchError.wait pid),
          childJournal program args pid (h.conduct pid s').1.printed made,
          (h.conduct pid s').2⟩ := by
  simp only [runProgram, hspawn, hends.awaitEnding_eq]
  rfl

/-- A program whose ending is seen is reported as finished, and nothing is told of it. -/
theorem launch_of_ended {a : Surroundings σ} {pid : Nat} {made : List WaitResult}
    {status : ChildStatus} (hspawn : h.spawn program args a.host = (.ok pid, s'))
    (hends : EndsWaiting (h.conduct pid s').1.waits made (.ok status)) :
    launch h (program :: args) a
      = ⟨.continue,
          childJournal program args pid (h.conduct pid s').1.printed made
            ++ [.logged (.childFinished status)],
          { a with host := (h.conduct pid s').2 }⟩ := by
  simp only [launch, runProgram_of_spawned hspawn hends, mapError_ok]

end Run

theorem ofChild_runProgram {σ : Type} (h : Host σ) (program : Bytes) (args : List Bytes) (s : σ) :
    ∀ e ∈ (runProgram h program args s).journal, e.ofChild := by
  rcases hspawn : h.spawn program args s with ⟨answer, s'⟩
  cases answer with
  | error f =>
    rw [runProgram_of_refused hspawn]
    exact List.forall_mem_singleton.2 rfl
  | ok pid =>
    obtain ⟨made, ending, hends⟩ := exists_endsWaiting (h.conduct pid s').1.waits
    rw [runProgram_of_spawned hspawn hends]
    exact ofChild_childJournal program args pid _ made

/-! ## What is noted of a child -/

/-- The notice that a wait brings, if it brings one. -/
def WaitResult.notice? : WaitResult → Option Notice
  | notice n => some n
  | interrupted | failed _ => none

namespace Journal

/-- Every wait is one request. -/
theorem requests_flatMap_entries (pid : Nat) (made : List WaitResult) :
    requests (made.flatMap (WaitResult.entries pid)) = List.replicate made.length (.wait pid) := by
  induction made with
  | nil => rfl
  | cons r made ih =>
    have hone : requests (r.entries pid) = [.wait pid] := by cases r <;> rfl
    rw [List.flatMap_cons, requests_append, hone, ih]
    rfl

/-- Every notice is noted once. -/
theorem events_flatMap_entries (pid : Nat) (made : List WaitResult) :
    events (made.flatMap (WaitResult.entries pid))
      = (made.filterMap WaitResult.notice?).map (.childWaited pid) := by
  induction made with
  | nil => rfl
  | cons r made ih =>
    rw [List.flatMap_cons, events_append, ih]
    cases r <;> rfl

/-- No wait is told of. -/
theorem diagnosed_flatMap_entries (pid : Nat) (made : List WaitResult) :
    diagnosed (made.flatMap (WaitResult.entries pid)) = [] := by
  induction made with
  | nil => rfl
  | cons r made ih =>
    rw [List.flatMap_cons, diagnosed_append, ih]
    cases r <;> rfl

/-- What a child prints is neither a request nor an event nor a diagnostic. -/
theorem views_printed (printed : List (Stream × Bytes)) :
    requests (printed.map fun (stream, b) => .printed stream b) = [] ∧
      events (printed.map fun (stream, b) => .printed stream b) = [] ∧
      diagnosed (printed.map fun (stream, b) => .printed stream b) = [] := by
  induction printed with
  | nil => exact ⟨rfl, rfl, rfl⟩
  | cons p printed ih => exact ih

/-- The requests, events and diagnostics of a program that is started and waited for. -/
theorem views_childJournal (program : Bytes) (args : List Bytes) (pid : Nat)
    (printed : List (Stream × Bytes)) (made : List WaitResult) :
    requests (childJournal program args pid printed made)
        = .spawn program args :: List.replicate made.length (.wait pid) ∧
      events (childJournal program args pid printed made)
        = .childSpawned pid program
          :: (made.filterMap WaitResult.notice?).map (.childWaited pid) ∧
      diagnosed (childJournal program args pid printed made) = [] := by
  obtain ⟨hrequests, hevents, hdiagnosed⟩ := views_printed printed
  unfold childJournal
  refine ⟨?_, ?_, ?_⟩
  · rw [requests_append, requests_append, hrequests, requests_flatMap_entries]
    rfl
  · rw [events_append, events_append, hevents, events_flatMap_entries]
    rfl
  · rw [diagnosed_append, diagnosed_append, hdiagnosed, diagnosed_flatMap_entries]
    rfl

end Journal

/-- The status of a child is the one that its ending announces, with its number or with that of its
signal behind 128. -/
theorem Notice.ending_eq_some_iff (n : Notice) (status : ChildStatus) :
    n.ending = some status ↔
      (∃ c, n = .exited c ∧ status = .exited c) ∨
        ∃ signal dumped, n = .signaled signal dumped ∧ status = .signaled signal := by
  cases n <;> simp [ending, eq_comm]

/-- Signal numbers are far too small for their sum with 128 to overflow. -/
theorem ChildStatus.toInt_code_signaled {signal : Int32} (hpos : 0 ≤ signal.toInt)
    (hsmall : 128 + signal.toInt ≤ Int32.maxValue.toInt) :
    (ChildStatus.signaled signal).code.toInt = 128 + signal.toInt := by
  have h128 : (128 : Int32).toInt = 128 := by decide
  have hmax : Int32.maxValue.toInt = 2147483647 := by decide
  rw [code, Int32.toInt_add, h128]
  exact Int.bmod_eq_of_le (by omega) (by omega)

/-- **The first ending of a child is the one that is reported.** Let the waits on a child that was
started bring notices of any kinds that are no endings, and then one that is. So many waits are made
and no more, each is noted once, in order, and the status is the one that the last notice announces.
The command is then over: one event says that the child has finished, with this status and its exit
code, nothing is told on the sink for diagnostics, and the loop goes on, whatever the status is. -/
theorem launch_reports_first_ending {σ : Type} {h : Host σ} {program : Bytes} {args : List Bytes}
    {a : Surroundings σ} {pid : Nat} {s' : σ}
    (hspawn : h.spawn program args a.host = (.ok pid, s')) {before : List Notice} {last : Notice}
    {status : ChildStatus} {rest : List WaitResult}
    (hwaits : (h.conduct pid s').1.waits = (before ++ [last]).map .notice ++ rest)
    (hbefore : ∀ n ∈ before, n.ending = none) (hlast : last.ending = some status) :
    awaitEnding pid (h.conduct pid s').1.waits
        = ((before ++ [last]).flatMap fun n =>
            [.asked (.wait pid), .logged (.childWaited pid n)],
          .ok status) ∧
      ((∃ c, last = .exited c ∧ status = .exited c ∧ status.code = c) ∨
        ∃ signal dumped, last = .signaled signal dumped ∧ status = .signaled signal ∧
          status.code = 128 + signal ∧
          (0 ≤ signal.toInt → 128 + signal.toInt ≤ Int32.maxValue.toInt →
            status.code.toInt = 128 + signal.toInt)) ∧
      (launch h (program :: args) a).result = .continue ∧
      (launch h (program :: args) a).journal.requests
        = .spawn program args :: List.replicate (before ++ [last]).length (.wait pid) ∧
      (launch h (program :: args) a).journal.events
        = .childSpawned pid program :: (before ++ [last]).map (.childWaited pid)
          ++ [.childFinished status] ∧
      (launch h (program :: args) a).journal.events.map Event.message
        = "spawned child" :: List.replicate (before ++ [last]).length "waiting for process"
          ++ ["child finished"] ∧
      (Event.childFinished status).fields
        = [("status", .text status.text), ("code", .text (numberText status.code.toInt))] ∧
      (launch h (program :: args) a).journal.diagnosed = [] ∧
      (launch h (program :: args) a).after.diagnostics = a.diagnostics := by
  have hpasses : ∀ r ∈ before.map WaitResult.notice, r.Passes := by
    intro r hr
    obtain ⟨n, hn, rfl⟩ := List.mem_map.1 hr
    exact hbefore n hn
  have hends : EndsWaiting (h.conduct pid s').1.waits ((before ++ [last]).map .notice)
      (.ok status) := by
    rw [hwaits, List.map_append, List.append_assoc]
    exact .ended hpasses hlast
  have hnotices : ((before ++ [last]).map WaitResult.notice).filterMap WaitResult.notice?
      = before ++ [last] := by
    rw [List.filterMap_map]
    exact List.filterMap_some
  obtain ⟨hrequests, hevents, hdiagnosed⟩ := Journal.views_childJournal program args pid
    (h.conduct pid s').1.printed ((before ++ [last]).map .notice)
  have hall : (launch h (program :: args) a).journal.events
      = .childSpawned pid program :: (before ++ [last]).map (.childWaited pid)
        ++ [.childFinished status] := by
    rw [launch_of_ended hspawn hends, Journal.events_append, hevents, hnotices]
    rfl
  have hmessages : ∀ notices : List Notice,
      (notices.map (.childWaited pid)).map Event.message
        = List.replicate notices.length "waiting for process" := by
    intro notices
    rw [List.map_map]
    exact List.map_const'
  refine ⟨?_, ?_, ?_, ?_, hall, ?_, rfl, ?_, ?_⟩
  · -- the waits
    rw [hends.awaitEnding_eq, List.flatMap_map]
    rfl
  · -- the status
    rcases (Notice.ending_eq_some_iff last status).1 hlast with
      ⟨c, hc, rfl⟩ | ⟨signal, dumped, hsignal, rfl⟩
    · exact Or.inl ⟨c, hc, rfl, rfl⟩
    · exact Or.inr ⟨signal, dumped, hsignal, rfl, rfl, ChildStatus.toInt_code_signaled⟩
  · -- the loop goes on
    rw [launch_of_ended hspawn hends]
  · -- the requests
    rw [launch_of_ended hspawn hends, Journal.requests_append, hrequests, List.length_map]
    exact List.append_nil _
  · -- the messages of the events
    rw [hall, List.map_append, List.map_cons, hmessages]
    rfl
  · -- the diagnostics
    rw [launch_of_ended hspawn hends, Journal.diagnosed_append, hdiagnosed]
    rfl
  · -- their sink
    rw [launch_of_ended hspawn hends]

/-- A child that is stopped, goes on, is stopped again and is killed; that nothing may be known of
it behind its end does not matter. -/
theorem launch_reports_first_ending_of_stops :
    let h : Host Nat :=
      { changeDirectory := fun _ x => (.ok (), x)
        spawn := fun _ _ x => (.ok (x + 1), x + 1)
        conduct := fun _ x =>
          (⟨[(.out, utf8 "x")],
            [.notice (.stopped 19), .notice .continued, .notice .stillAlive, .notice (.stopped 20),
              .notice (.signaled 9 true), .failed .noChild]⟩, x) }
    let a : Surroundings Nat := ⟨6, .unlimited⟩
    let notices : List Notice :=
      [.stopped 19, .continued, .stillAlive, .stopped 20, .signaled 9 true]
    h.spawn (utf8 "sh") [utf8 "x"] a.host = (.ok 7, 7) ∧
      (h.conduct 7 7).1.waits = notices.map .notice ++ [.failed .noChild] ∧
      (launch h [utf8 "sh", utf8 "x"] a).journal.events
        = .childSpawned 7 (utf8 "sh") :: notices.map (.childWaited 7)
          ++ [.childFinished (.signaled 9)] ∧
      (ChildStatus.signaled 9).code = 137 := by
  intro h a notices
  have hspawn : h.spawn (utf8 "sh") [utf8 "x"] a.host = (.ok 7, 7) := rfl
  have hbefore : ∀ n ∈ [Notice.stopped 19, .continued, .stillAlive, .stopped 20],
      n.ending = none := by decide
  have hlast : (Notice.signaled 9 true).ending = some (.signaled 9) := rfl
  have hwaits : (h.conduct 7 7).1.waits = notices.map .notice ++ [.failed .noChild] := rfl
  obtain ⟨_, _, _, _, hevents, _⟩ := launch_reports_first_ending hspawn hwaits hbefore hlast
  exact ⟨hspawn, hwaits, hevents, by decide⟩

end LineShell
