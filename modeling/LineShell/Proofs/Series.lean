import LineShell.Proofs.History

/-!
# Series of operations

Operations are made on a session one after another, and each of them gives a reply: what it returns
and what it leaves in the journal. The loop takes over wherever steps have brought the session, so a
number of steps and the loop behind them do together what the loop does alone
(`steps_and_loop_divide_loop`). Only what the single calls return differs, and a fault in the input
is returned by the one that made the read.
-/

namespace LineShell

/-- What an operation gives. -/
structure Reply where
  answer : Answer
  journal : Journal

/-- The reply of a step that finds the loop stopped. -/
def Reply.idleStep (d : Disposition) : Reply :=
  ⟨.progress (.ok (.stopped d)), []⟩

/-- The reply of a loop that was stopped before. -/
def Reply.idleLoop : Reply :=
  ⟨.done (.ok ()), []⟩

namespace Session

open LineReader (result)

variable {σ ι : Type} [LineReader ι]

/-- Operations made one after another, what they gave, and the session after them. -/
inductive PerformsEach (p : Platform σ) :
    List Operation → Session σ ι → List Reply → Session σ ι → Prop where
  | nil (s : Session σ ι) : PerformsEach p [] s [] s
  | cons {op ops s act replies t} (hop : Performs p op s act)
    (hrest : PerformsEach p ops act.after replies t) :
    PerformsEach p (op :: ops) s (⟨act.result, act.journal⟩ :: replies) t

variable (h : Host σ)

/-! ## Errors of the loop -/

section Errors

variable {h} {s t : Session σ ι} {op : Operation} {ops : List Operation} {replies : List Reply}
  {act : Act Answer (Session σ ι)}

/-- An operation returns an error of the loop exactly if it has made the read that failed. -/
theorem Performs.error_eq_some_iff (hop : Performs h op s act) (cause : Fault) :
    act.result.error? = some (.read cause) ↔ .failed cause ∈ act.journal.reads := by
  rcases hop.reads_cases with
    ⟨hjournal, herror, _⟩ | ⟨_, _, reads, last, hreads, hjournal, _, herror⟩
  · rw [hjournal, herror]
    simp
  · have hbefore : .failed cause ∉ reads := fun hmem => hreads _ hmem trivial
    rw [hjournal, herror, List.mem_append, List.mem_singleton, or_iff_right hbefore]
    cases last <;> simp [ReadResult.error?, eq_comm]

theorem Performs.state_of_error (hop : Performs h op s act) (herror : act.result.error? ≠ none) :
    act.after.state = .stopped .failed := by
  rcases hop.reads_cases with ⟨_, hnone, _⟩ | ⟨_, _, reads, last, _, _, hstate, hlast⟩
  · exact absurd hnone herror
  · rw [hlast] at herror
    rw [hstate]
    cases last with
    | line b => exact absurd rfl herror
    | endOfInput => exact absurd rfl herror
    | failed cause => rfl

theorem PerformsEach.of_stopped (hrun : PerformsEach h ops s replies t)
    (hops : ∀ op ∈ ops, op = .step ∨ op = .repl) {d : Disposition} (hs : s.state = .stopped d) :
    t = s ∧ ∀ r ∈ replies, r = .idleStep d ∨ r = .idleLoop := by
  induction hrun with
  | nil s => exact ⟨rfl, List.forall_mem_nil _⟩
  | @cons op ops s act replies t hop hrest ih =>
    obtain ⟨hfirst, hbehind⟩ := List.forall_mem_cons.1 hops
    rcases hfirst with rfl | rfl
    · obtain rfl := (performs_step_iff_of_stopped hs).1 hop
      obtain ⟨hsame, hidle⟩ := ih hbehind hs
      exact ⟨hsame, List.forall_mem_cons.2 ⟨Or.inl rfl, hidle⟩⟩
    · obtain rfl := (performs_repl_iff_of_stopped hs).1 hop
      obtain ⟨hsame, hidle⟩ := ih hbehind hs
      exact ⟨hsame, List.forall_mem_cons.2 ⟨Or.inr rfl, hidle⟩⟩

theorem PerformsEach.idle_of_error (hrun : PerformsEach h ops s replies t)
    (hops : ∀ op ∈ ops, op = .step ∨ op = .repl) {before after : List Reply} {r : Reply}
    (hreplies : replies = before ++ r :: after) (herror : r.answer.error? ≠ none) :
    ∀ later ∈ after, later = .idleStep .failed ∨ later = .idleLoop := by
  induction hrun generalizing before with
  | nil s => simp at hreplies
  | @cons op ops s act replies t hop hrest ih =>
    have hops' := (List.forall_mem_cons.1 hops).2
    cases before with
    | nil =>
      obtain ⟨rfl, rfl⟩ := List.cons.inj hreplies
      exact (hrest.of_stopped hops' (hop.state_of_error herror)).2
    | cons first before => exact ih hops' (List.cons.inj hreplies).2

theorem PerformsEach.error_eq_some_iff (hrun : PerformsEach h ops s replies t) (cause : Fault) :
    ∀ r ∈ replies, r.answer.error? = some (.read cause) ↔ .failed cause ∈ r.journal.reads := by
  induction hrun with
  | nil s => exact List.forall_mem_nil _
  | cons hop _ ih => exact List.forall_mem_cons.2 ⟨hop.error_eq_some_iff cause, ih⟩

end Errors

/-! ## A loop that is divided -/

theorem Completes.exists_after_step {s : Session σ ι}
    {act : Act (Except ShellError Unit) (Session σ ι)} (hact : Completes h s act) :
    ∃ rest, Completes h (step h s).after rest ∧ rest.after = act.after ∧
      (step h s).journal ++ rest.journal = act.journal := by
  cases hact with
  | @stopped s hs =>
    cases hd : s.state with
    | running => exact absurd hd hs
    | stopped d =>
      rw [step_of_stopped h hd]
      exact ⟨_, .stopped hs, rfl, rfl⟩
  | @failed s e hs he =>
    have herror : (Answer.progress (step h s).result).error? ≠ none := by simp [Answer.error?, he]
    have hfailed := (Performs.step (p := h) s).state_of_error herror
    have hidle : Completes h (step h s).after ⟨.ok (), [], (step h s).after⟩ :=
      .stopped (by rw [hfailed]; simp)
    exact ⟨_, hidle, rfl, List.append_nil _⟩
  | next _ _ hrest => exact ⟨_, hrest, rfl, rfl⟩

theorem Completes.exists_before_step {s : Session σ ι}
    {rest : Act (Except ShellError Unit) (Session σ ι)}
    (hrest : Completes h (step h s).after rest) :
    ∃ act, Completes h s act := by
  cases hs : s.state with
  | stopped d => exact ⟨_, .stopped (by rw [hs]; simp)⟩
  | running =>
    cases hres : (step h s).result with
    | ok st => exact ⟨_, .next hs hres hrest⟩
    | error e => exact ⟨_, .failed hs hres⟩

/-- A number of steps, and the loop. -/
def stepsThenLoop (k : Nat) : List Operation :=
  List.replicate k .step ++ [.repl]

theorem mem_stepsThenLoop {k : Nat} : ∀ op ∈ stepsThenLoop k, op = .step ∨ op = .repl := by
  intro op hop
  rcases List.mem_append.1 hop with hop | hop
  · exact Or.inl (List.eq_of_mem_replicate hop)
  · exact Or.inr (List.mem_singleton.1 hop)

/-- The loop that starts at `s` and ends as `act` in several calls with these replies, which leave
the session `t`. -/
structure Divides (replies : List Reply) (t : Session σ ι) (act : Act Answer (Session σ ι)) :
    Prop where
  after : t = act.after
  journal : replies.flatMap Reply.journal = act.journal
  /-- A fault in the input is returned by the call that read it and by no other one. The calls
  behind it do nothing. -/
  fault : ∀ cause, .failed cause ∈ act.journal.reads → ∃ before r behind,
    replies = before ++ r :: behind ∧
    .failed cause ∈ r.journal.reads ∧ r.answer.error? = some (.read cause) ∧
    (∀ other ∈ before ++ behind, other.answer.error? = none) ∧
    ∀ later ∈ behind, later = .idleStep .failed ∨ later = .idleLoop
  /-- Without one no error is returned. -/
  noFault : (∀ cause, .failed cause ∉ act.journal.reads) → ∀ r ∈ replies, r.answer.error? = none

variable {h}

theorem PerformsEach.after_eq {s t : Session σ ι} {k : Nat} {replies : List Reply}
    {act : Act (Except ShellError Unit) (Session σ ι)}
    (hrun : PerformsEach h (stepsThenLoop k) s replies t) (hact : Completes h s act) :
    t = act.after ∧ replies.flatMap Reply.journal = act.journal := by
  induction k generalizing s replies act with
  | zero =>
    cases hrun with
    | cons hop hrest =>
      cases hop with
      | repl hact' =>
        cases hrest
        rw [Completes.unique hact hact']
        exact ⟨rfl, List.append_nil _⟩
  | succ k ih =>
    cases hrun with
    | cons hop hrest =>
      cases hop with
      | step =>
        obtain ⟨rest, hcompletes, hafter, hjournal⟩ := Completes.exists_after_step h hact
        obtain ⟨hsame, hmore⟩ := ih hrest hcompletes
        exact ⟨hsame.trans hafter, by rw [List.flatMap_cons, hmore, hjournal]⟩

theorem exists_performsEach_iff {s : Session σ ι} {k : Nat} :
    (∃ replies t, PerformsEach h (stepsThenLoop k) s replies t) ↔ ∃ act, Completes h s act := by
  induction k generalizing s with
  | zero =>
    constructor
    · rintro ⟨replies, t, hrun⟩
      cases hrun with
      | cons hop _ =>
        cases hop with
        | repl hact => exact ⟨_, hact⟩
    · rintro ⟨act, hact⟩
      exact ⟨_, _, .cons (.repl hact) (.nil _)⟩
  | succ k ih =>
    constructor
    · rintro ⟨replies, t, hrun⟩
      cases hrun with
      | cons hop hrest =>
        cases hop with
        | step =>
          obtain ⟨rest, hcompletes⟩ := ih.1 ⟨_, _, hrest⟩
          exact Completes.exists_before_step h hcompletes
    · rintro ⟨act, hact⟩
      obtain ⟨rest, hcompletes, _⟩ := Completes.exists_after_step h hact
      obtain ⟨replies, t, hrun⟩ := ih.2 ⟨rest, hcompletes⟩
      exact ⟨_, _, .cons (.step s) hrun⟩

theorem PerformsEach.divides {s t : Session σ ι} {k : Nat} {replies : List Reply}
    {act : Act (Except ShellError Unit) (Session σ ι)}
    (hrun : PerformsEach h (stepsThenLoop k) s replies t) (hact : Completes h s act) :
    Divides replies t ⟨.done act.result, act.journal, act.after⟩ := by
  obtain ⟨hafter, hjournal⟩ := hrun.after_eq hact
  have hreads : ∀ read, read ∈ act.journal.reads ↔ ∃ r ∈ replies, read ∈ r.journal.reads := by
    intro read
    rw [← hjournal, Journal.reads, List.filterMap_flatMap, List.mem_flatMap]
    rfl
  have hidle : ∀ {before behind : List Reply} {r : Reply}, replies = before ++ r :: behind →
      r.answer.error? ≠ none → ∀ later ∈ behind, later = .idleStep .failed ∨ later = .idleLoop :=
    hrun.idle_of_error mem_stepsThenLoop
  refine { after := hafter, journal := hjournal, fault := ?_, noFault := ?_ }
  · -- fault
    intro cause hcause
    obtain ⟨r, hr, hread⟩ := (hreads _).1 hcause
    have herror := (hrun.error_eq_some_iff cause r hr).2 hread
    obtain ⟨before, behind, hsplit⟩ := List.append_of_mem hr
    have hbehind := hidle hsplit (by rw [herror]; simp)
    refine ⟨before, r, behind, hsplit, hread, herror, ?_, hbehind⟩
    intro other hother
    rcases List.mem_append.1 hother with hother | hother
    · -- behind a call with an error there would be no read
      by_contra hne
      obtain ⟨first, more, rfl⟩ := List.append_of_mem hother
      rw [List.append_assoc] at hsplit
      rcases hidle hsplit hne r (by simp) with rfl | rfl
      · cases hread
      · cases hread
    · rcases hbehind other hother with rfl | rfl
      · rfl
      · rfl
  · -- noFault
    intro hnone r hr
    cases herror : r.answer.error? with
    | none => rfl
    | some e =>
      obtain ⟨cause⟩ := e
      have hread := (hrun.error_eq_some_iff cause r hr).1 herror
      exact absurd ((hreads _).2 ⟨r, hr, hread⟩) (hnone cause)

/-- **How the loop is divided makes no difference.** Any number of steps and the loop behind them
end if and only if the loop alone does. They leave the same session, which is its state, the rest of
its source with the sink for prompts, the sink for diagnostics and the operating system, and all
that is seen of them is the same, in order. A fault in the input is returned once, by the call that
read it; then every later step finds the loop failed and the loop returns at once. On sources, which
are finite, the loop is `repl`, so it always ends. -/
theorem steps_and_loop_divide_loop (h : Host σ) (s : Session σ ι) (k : Nat) :
    ((∃ replies t, PerformsEach h (stepsThenLoop k) s replies t)
      ↔ ∃ act, Performs h .repl s act) ∧
    (∀ replies t act, PerformsEach h (stepsThenLoop k) s replies t → Performs h .repl s act →
      Divides replies t act) ∧
    ∀ {κ : Type} [LineSource κ] (u : Session σ κ), ∃ replies,
      PerformsEach h (stepsThenLoop k) u replies (u.repl h).after ∧
      Divides replies (u.repl h).after
        ⟨.done (u.repl h).result, (u.repl h).journal, (u.repl h).after⟩ := by
  refine ⟨?_, ?_, ?_⟩
  · rw [exists_performsEach_iff]
    constructor
    · rintro ⟨act, hact⟩
      exact ⟨_, .repl hact⟩
    · rintro ⟨act, hop⟩
      cases hop with
      | repl hact => exact ⟨_, hact⟩
  · intro replies t act hrun hop
    cases hop with
    | repl hact => exact hrun.divides hact
  · intro κ _ u
    have hact := completes_repl h u
    obtain ⟨replies, t, hrun⟩ := exists_performsEach_iff (k := k).2 ⟨_, hact⟩
    obtain rfl := (hrun.after_eq hact).1
    exact ⟨replies, hrun, hrun.divides hact⟩

end Session

end LineShell
