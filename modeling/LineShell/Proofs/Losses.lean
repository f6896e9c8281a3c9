import LineShell.Proofs.Series
import LineShell.Proofs.Telling

/-!
# Diagnostics that are lost

A sink for diagnostics may be slow, interrupting and, after some bytes, full. A run with such a sink
is compared with its twin, the same run with a sink that accepts everything. Of the lines that the
twin tells the sink takes the front, each line that it cannot take in full is noted once
(`CutShort`), and nothing else differs between the two (`Session.broken_sink_loses_messages_only`).
The runs are those of any platform: memory for the words of a line may run out in them, which is
told like a command that fails.
-/

namespace LineShell

/-! ## One journal beside another -/

/-- Behind the bytes `told`, what is left of a journal if its diagnostics are told on a sink instead
of one that accepts everything. -/
inductive CutShort (sink : Sink) : Bytes → Journal → Journal → Prop where
  | nil {told} : CutShort sink told [] []
  | other {told e full j} (he : e.ofTelling = false) (hrest : CutShort sink told full j) :
    CutShort sink told (e :: full) (e :: j)
  /-- There is room for the line behind those before it. -/
  | whole {told line full j} (hroom : ¬ sink.Exceeded (told ++ line).length)
    (hrest : CutShort sink (told ++ line) full j) :
    CutShort sink told (.diagnosed line line.length :: full) (.diagnosed line line.length :: j)
  /-- There is none, or for its front only. This is noted, once. -/
  | lost {told line full j limit} (hlimit : sink.room = some limit)
    (hlt : limit < (told ++ line).length) (f : Fault)
    (hrest : CutShort sink (told ++ line) full j) :
    CutShort sink told (.diagnosed line line.length :: full)
      (.diagnosed line (limit - told.length) :: .logged (.diagnosticLost f) :: j)

section Journals

variable {sink : Sink} {told : Bytes} {full full' j j' : Journal}

theorem diagnosed_cons_of_other {e : Entry} (he : e.ofTelling = false) :
    Journal.diagnosed (e :: full) = full.diagnosed := by
  have hone : Journal.diagnosed [e] = [] :=
    Journal.Untold.diagnosed_eq_nil (.cons he .nil)
  rw [← List.singleton_append, Journal.diagnosed_append, hone, List.nil_append]

theorem CutShort.append (h : CutShort sink told full j)
    (h' : CutShort sink (told ++ full.diagnosed.flatten) full' j') :
    CutShort sink told (full ++ full') (j ++ j') := by
  induction h with
  | nil => simpa using h'
  | other he _ ih =>
    rw [diagnosed_cons_of_other he] at h'
    exact .other he (ih h')
  | whole hroom _ ih =>
    rw [Journal.diagnosed_cons, List.flatten_append, ← List.append_assoc] at h'
    exact .whole hroom (ih (by simpa using h'))
  | lost hlimit hlt f _ ih =>
    rw [Journal.diagnosed_cons, List.flatten_append, ← List.append_assoc] at h'
    exact .lost hlimit hlt f (ih (by simpa using h'))

/-- A journal in which nothing is told is left as it is. -/
theorem CutShort.behind {k : Journal} (hk : k.Untold) (h : CutShort sink told full j) :
    CutShort sink told (k ++ full) (k ++ j) := by
  induction k with
  | nil => exact h
  | cons e k ih =>
    obtain ⟨he, hk⟩ := List.forall_mem_cons.1 hk
    exact .other he (ih hk)

/-- Apart from what belongs to telling, the journals are the same. -/
theorem CutShort.filter_eq (h : CutShort sink told full j) :
    j.filter (fun e => !e.ofTelling) = full.filter (fun e => !e.ofTelling) := by
  induction h with
  | nil => rfl
  | other he _ ih => simp [he, ih]
  | whole _ _ ih => simpa [Entry.ofTelling] using ih
  | lost _ _ _ _ ih => simpa [Entry.ofTelling] using ih

end Journals

/-! ## One sink beside another -/

/-- The bytes `told` have been told on `sink`, which is `now` behind them, and on `full`, which
accepts everything and is `now'`. -/
structure ToldOnBoth (sink full : Sink) (told : Bytes) (now now' : Sink) : Prop where
  wrote : ∃ fault, sink.Wrote told fault now
  acceptsAll : now'.AcceptsAll
  accepted : now'.accepted.toList = full.accepted.toList ++ told

section Sinks

variable {sink full : Sink} {told : Bytes} {now now' : Sink}

theorem diagnosticLine_ne_nil (message : Bytes) : diagnosticLine message ≠ [] := by
  rw [diagnosticLine_eq]
  simp

/-- A line that there is no room for behind others is cut where the room ends. -/
theorem Sink.Wrote.fits_eq_sub {fault : Option Fault} (hbefore : sink.Wrote told fault now)
    {limit : Nat} (hlimit : sink.room = some limit) {n : Nat} (hlt : limit < told.length + n) :
    now.fits n = limit - told.length := by
  have hroom := hbefore.room
  rw [hlimit, Option.map_some] at hroom
  unfold Sink.fits
  rw [hroom, Option.getD_some]
  omega

theorem ToldOnBoth.report (ht : ToldOnBoth sink full told now now') (message : List Bytes) :
    CutShort sink told (report message now').1 (report message now).1 ∧
      ToldOnBoth sink full (told ++ (report message now').1.diagnosed.flatten)
        (report message now).2 (report message now').2 := by
  obtain ⟨fault, hbefore⟩ := ht.wrote
  obtain ⟨fault', hline, hjournal⟩ := report_of_steady hbefore.steady message
  obtain ⟨hjournal', hfull, haccepted⟩ := report_of_acceptsAll ht.acceptsAll message
  have htold :
      (LineShell.report message now').1.diagnosed.flatten = diagnosticLine message.flatten := by
    rw [hjournal']
    simp
  have hlost := hbefore.fault_ne_none_iff_behind hline
  refine ⟨?_, ?_⟩
  · rw [hjournal, hjournal']
    by_cases hroom : sink.Exceeded (told ++ diagnosticLine message.flatten).length
    · obtain ⟨f, rfl⟩ := Option.ne_none_iff_exists'.1
        (hlost.2 ⟨diagnosticLine_ne_nil _, hroom⟩)
      obtain ⟨limit, hlimit, hlt⟩ := hroom
      rw [hbefore.fits_eq_sub hlimit (by simpa using hlt)]
      exact .lost hlimit hlt f .nil
    · have hnone : fault' = none := by
        by_contra hsome
        exact hroom (hlost.1 hsome).2
      rw [hline.fault_eq_none_iff.1 hnone, hnone]
      exact .whole hroom .nil
  · rw [htold]
    refine { wrote := ⟨_, hbefore.trans hline⟩, acceptsAll := hfull, accepted := ?_ }
    rw [haccepted, ht.accepted, List.append_assoc]

theorem ToldOnBoth.tell (ht : ToldOnBoth sink full told now now') (message : Option (List Bytes)) :
    CutShort sink told (tell message now').1 (tell message now).1 ∧
      ToldOnBoth sink full (told ++ (tell message now').1.diagnosed.flatten)
        (tell message now).2 (tell message now').2 := by
  cases message with
  | none => exact ⟨.nil, by simpa [LineShell.tell] using ht⟩
  | some message => exact ht.report message

end Sinks

/-! ## One session beside another -/

/-- Whether the diagnostics of an operation go to the sink of the session. -/
def Operation.tells : Operation → Bool
  | execute _ | step | repl => true
  | launch .. | invoke .. | run .. => false

/-- The lines that operations have told on the sink of the session. -/
def linesTold : List Operation → List Reply → List Bytes
  | op :: ops, r :: rs => (if op.tells then r.journal.diagnosed else []) ++ linesTold ops rs
  | _, _ => []

/-- Behind the bytes `told`, what is left of replies if the sink of the session is `sink` instead of
one that accepts everything. -/
inductive RepliesCutShort (sink : Sink) :
    Bytes → List Operation → List Reply → List Reply → Prop where
  | nil {told} : RepliesCutShort sink told [] [] []
  | elsewhere {told op ops r full rs} (hop : op.tells = false)
    (hrest : RepliesCutShort sink told ops full rs) :
    RepliesCutShort sink told (op :: ops) (r :: full) (r :: rs)
  | here {told op ops answer j k full rs} (hop : op.tells = true)
    (hjournal : CutShort sink told j k)
    (hrest : RepliesCutShort sink (told ++ j.diagnosed.flatten) ops full rs) :
    RepliesCutShort sink told (op :: ops) (⟨answer, j⟩ :: full) (⟨answer, k⟩ :: rs)

theorem RepliesCutShort.answers_eq {sink : Sink} {told : Bytes} {ops : List Operation}
    {full rs : List Reply} (h : RepliesCutShort sink told ops full rs) :
    rs.map Reply.answer = full.map Reply.answer := by
  induction h with
  | nil => rfl
  | elsewhere _ _ ih => simp [ih]
  | here _ _ _ ih => simp [ih]

theorem RepliesCutShort.filter_eq {sink : Sink} {told : Bytes} {ops : List Operation}
    {full rs : List Reply} (h : RepliesCutShort sink told ops full rs) :
    (rs.flatMap Reply.journal).filter (fun e => !e.ofTelling)
      = (full.flatMap Reply.journal).filter (fun e => !e.ofTelling) := by
  induction h with
  | nil => rfl
  | elsewhere _ _ ih => simp only [List.flatMap_cons, List.filter_append, ih]
  | here _ hjournal _ ih =>
    simp only [List.flatMap_cons, List.filter_append, ih, hjournal.filter_eq]

namespace Session

open LineReader (next result FirstStop)

variable {σ ι : Type} {α : Type}

/-- Two sessions that differ in their sinks for diagnostics only, on which the same has been
told. -/
structure Twins (sink full : Sink) (told : Bytes) (s s' : Session σ ι) : Prop where
  state : s.state = s'.state
  source : s.source = s'.source
  host : s.host = s'.host
  sinks : ToldOnBoth sink full told s.diagnostics s'.diagnostics

/-- What two sessions do that differ in their sinks for diagnostics only. -/
structure TwinActs (sink full : Sink) (told : Bytes) (act act' : Act α (Session σ ι)) : Prop where
  result : act.result = act'.result
  journal : CutShort sink told act'.journal act.journal
  after : Twins sink full (told ++ act'.journal.diagnosed.flatten) act.after act'.after

variable {sink full : Sink} {told : Bytes} {s s' : Session σ ι}

theorem twins_of_steady (hs : s.diagnostics.Steady) (hfull : full.AcceptsAll) :
    Twins s.diagnostics full [] s { s with diagnostics := full } :=
  { state := rfl
    source := rfl
    host := rfl
    sinks := { wrote := ⟨none, .nil hs⟩, acceptsAll := hfull, accepted := by simp } }

/-- What has happened before without telling anything makes no difference. -/
theorem TwinActs.behind {act act' : Act α (Session σ ι)} {k : Journal} (hk : k.Untold)
    (hacts : TwinActs sink full told act act') :
    TwinActs sink full told { act with journal := k ++ act.journal }
      { act' with journal := k ++ act'.journal } := by
  refine { result := hacts.result, journal := hacts.journal.behind hk, after := ?_ }
  rw [Journal.diagnosed_append, hk.diagnosed_eq_nil, List.nil_append]
  exact hacts.after

theorem TwinActs.of_untold {r : α} {j : Journal} (hj : j.Untold) (ht : Twins sink full told s s') :
    TwinActs sink full told ⟨r, j, s⟩ ⟨r, j, s'⟩ := by
  have hnone : TwinActs sink full told ⟨r, [], s⟩ ⟨r, [], s'⟩ :=
    { result := rfl, journal := .nil, after := by simpa using ht }
  simpa using hnone.behind hj

/-- What is done one after the other is what it would be beside the twin. -/
theorem TwinActs.followed {β γ : Type} {first first' : Act α (Session σ ι)}
    {rest rest' : Act β (Session σ ι)} (hfirst : TwinActs sink full told first first')
    (hrest : TwinActs sink full (told ++ first'.journal.diagnosed.flatten) rest rest')
    {r r' : γ} (hr : r = r') :
    TwinActs sink full told ⟨r, first.journal ++ rest.journal, rest.after⟩
      ⟨r', first'.journal ++ rest'.journal, rest'.after⟩ := by
  refine { result := hr, journal := hfirst.journal.append hrest.journal, after := ?_ }
  rw [Journal.diagnosed_append, List.flatten_append, ← List.append_assoc]
  exact hrest.after

section Host

variable (h : Host σ)

theorem Twins.execute (ht : Twins sink full told s s') (ws : List Bytes) :
    TwinActs sink full told (s.execute h ws) (s'.execute h ws) := by
  obtain ⟨hcut, hsinks⟩ := ht.sinks.tell (Effect.ofWords h ws s.host).failure
  have htold : TwinActs sink full told
      ⟨(Effect.ofWords h ws s.host).outcome,
        (tell (Effect.ofWords h ws s.host).failure s.diagnostics).1, (s.execute h ws).after⟩
      ⟨(Effect.ofWords h ws s.host).outcome,
        (tell (Effect.ofWords h ws s.host).failure s'.diagnostics).1, (s'.execute h ws).after⟩ := by
    refine { result := rfl, journal := hcut, after := ?_ }
    simp only [Session.execute, dispatch_eq_effect, ← ht.host]
    exact { state := ht.state, source := ht.source, host := rfl, sinks := hsinks }
  have hbefore : Journal.Untold (.dispatched ws :: (Effect.ofWords h ws s.host).journal) :=
    .cons rfl (Effect.untold_ofWords h ws s.host)
  have hboth := htold.behind hbefore
  simpa only [Session.execute, dispatch_eq_effect, ← ht.host, List.cons_append] using hboth

theorem Twins.handle_line (ht : Twins sink full told s s') (b : Bytes) :
    TwinActs sink full told (Session.handle h (.line b) s) (Session.handle h (.line b) s') := by
  by_cases hb : (tokenize b).head? = some (utf8 "exit")
  · rw [handle_line_of_exit h hb, handle_line_of_exit h hb]
    exact .of_untold (untold_exit _) { ht with state := rfl }
  · have hacts := ht.execute h (tokenize b)
    rw [handle_line_of_ne_exit h hb, handle_line_of_ne_exit h hb]
    exact { hacts with result := by rw [ht.state] }

end Host

theorem Twins.report (ht : Twins sink full told s s') {r r' : α} (hr : r = r') {e : Event}
    (he : (Entry.logged e).ofTelling = false) (message : List Bytes) :
    TwinActs sink full told
      ⟨r, .logged e :: (report message s.diagnostics).1,
        { s with diagnostics := (report message s.diagnostics).2 }⟩
      ⟨r', .logged e :: (report message s'.diagnostics).1,
        { s' with diagnostics := (report message s'.diagnostics).2 }⟩ := by
  obtain ⟨hcut, hsinks⟩ := ht.sinks.report message
  refine { result := hr, journal := .other he hcut, after := ?_ }
  rw [diagnosed_cons_of_other he]
  exact { ht with sinks := hsinks }

variable (p : Platform σ)

theorem Twins.handle (ht : Twins sink full told s s') (r : ReadResult) :
    TwinActs sink full told (Session.handle p r s) (Session.handle p r s') := by
  cases r with
  | line b =>
    -- both hosts are in the same state, so there is memory for the words in both or in neither
    have hhost : Twins sink full told { s with host := (p.memory s.host).2 }
        { s' with host := (p.memory s'.host).2 } := { ht with host := by rw [ht.host] }
    cases hcut : cut (p.memory s.host).1 b with
    | ok ws =>
      rw [handle_line_of_cut p hcut, handle_line_of_cut p (ht.host ▸ hcut)]
      exact hhost.handle_line p.toHost b
    | error e =>
      rw [handle_line_of_refused p hcut, handle_line_of_refused p (ht.host ▸ hcut)]
      exact hhost.report (by rw [ht.state]) rfl _
  | endOfInput => exact .of_untold (.cons rfl .nil) { ht with state := rfl }
  | failed cause =>
    have hstopped : Twins sink full told { s with state := .stopped .failed }
        { s' with state := .stopped .failed } := { ht with state := rfl }
    rw [handle_failed, handle_failed]
    exact hstopped.report rfl rfl _

variable [LineReader ι]

theorem Twins.step (ht : Twins sink full told s s') :
    TwinActs sink full told (Session.step p s) (Session.step p s') := by
  cases hs : s.state with
  | stopped d =>
    have hs' : s'.state = .stopped d := ht.state.symm.trans hs
    rw [step_of_stopped p hs, step_of_stopped p hs']
    exact .of_untold .nil ht
  | running =>
    have hs' : s'.state = .running := ht.state.symm.trans hs
    have hread : Twins sink full told { s with source := next s.source }
        { s' with source := next s.source } := { ht with source := rfl }
    have hbefore := untold_asking s.source (result s.source 0)
    have hacts := (hread.handle p (result s.source 0)).behind hbefore
    rw [step_of_running p hs, step_of_running p hs', ← ht.source]
    simpa using hacts

/-! ## Operations

An operation, and so a series of them, comes to its end in both sessions or in neither, and behind
it they are twins again. -/

section Operations

variable {p}

/-- The loop that ends in the session ends in its twin. -/
theorem Twins.exists_completes (ht : Twins sink full told s s')
    {act : Act (Except ShellError Unit) (Session σ ι)} (hact : Completes p s act) :
    ∃ act', Completes p s' act' ∧ TwinActs sink full told act act' := by
  -- step by step, the sessions stay twins behind what they have told so far
  induction hact generalizing s' told with
  | stopped hs => exact ⟨_, .stopped (ht.state ▸ hs), .of_untold .nil ht⟩
  | failed hs he =>
    have hacts := ht.step p
    exact ⟨_, .failed (ht.state ▸ hs) (hacts.result ▸ he), { hacts with result := rfl }⟩
  | next hs ho _ ih =>
    have hfirst := ht.step p
    obtain ⟨act', hact', hrest⟩ := ih hfirst.after
    exact ⟨_, .next (ht.state ▸ hs) (hfirst.result ▸ ho) hact', hfirst.followed hrest hrest.result⟩

/-- The loop that ends in the twin ends in the session. -/
theorem Twins.exists_completes_of_twin (ht : Twins sink full told s s')
    {act' : Act (Except ShellError Unit) (Session σ ι)} (hact' : Completes p s' act') :
    ∃ act, Completes p s act := by
  induction hact' generalizing s told with
  | stopped hs' => exact ⟨_, .stopped (ht.state ▸ hs')⟩
  | failed hs' he' => exact ⟨_, .failed (ht.state ▸ hs') ((ht.step p).result ▸ he')⟩
  | next hs' ho' _ ih =>
    have hfirst := ht.step p
    obtain ⟨act, hact⟩ := ih hfirst.after
    exact ⟨_, .next (ht.state ▸ hs') (hfirst.result ▸ ho') hact⟩

theorem Twins.completes (ht : Twins sink full told s s')
    {act act' : Act (Except ShellError Unit) (Session σ ι)} (hact : Completes p s act)
    (hact' : Completes p s' act') : TwinActs sink full told act act' := by
  obtain ⟨act'', hact'', hacts⟩ := ht.exists_completes hact
  rwa [Completes.unique hact' hact'']

theorem Twins.exists_performs_iff (ht : Twins sink full told s s') (op : Operation) :
    (∃ act, Performs p op s act) ↔ ∃ act', Performs p op s' act' := by
  cases op with
  | execute ws => exact iff_of_true ⟨_, .execute ws s⟩ ⟨_, .execute ws s'⟩
  | launch ws sink => exact iff_of_true ⟨_, .launch ws sink s⟩ ⟨_, .launch ws sink s'⟩
  | invoke b ws sink => exact iff_of_true ⟨_, .invoke b ws sink s⟩ ⟨_, .invoke b ws sink s'⟩
  | run b ws => exact iff_of_true ⟨_, .run b ws s⟩ ⟨_, .run b ws s'⟩
  | step => exact iff_of_true ⟨_, .step s⟩ ⟨_, .step s'⟩
  | repl =>
    constructor
    · rintro ⟨_, hop⟩
      cases hop with
      | repl hact =>
        obtain ⟨act', hact', _⟩ := ht.exists_completes hact
        exact ⟨_, .repl hact'⟩
    · rintro ⟨_, hop'⟩
      cases hop' with
      | repl hact' =>
        obtain ⟨act, hact⟩ := ht.exists_completes_of_twin hact'
        exact ⟨_, .repl hact⟩

variable {op : Operation} {act act' : Act Answer (Session σ ι)}

theorem Twins.performs (ht : Twins sink full told s s') (hop : Performs p op s act)
    (hop' : Performs p op s' act') (htells : op.tells = true) :
    TwinActs sink full told act act' := by
  cases hop with
  | execute ws =>
    cases hop'
    have hacts := ht.execute p.toHost ws
    exact { hacts with result := congrArg Answer.outcome hacts.result }
  | step =>
    cases hop'
    have hacts := ht.step p
    exact { hacts with result := congrArg Answer.progress hacts.result }
  | repl hact =>
    cases hop' with
    | repl hact' =>
      have hacts := ht.completes hact hact'
      exact { hacts with result := congrArg Answer.done hacts.result }
  | launch => cases htells
  | invoke => cases htells
  | run => cases htells

theorem Twins.performs_elsewhere (ht : Twins sink full told s s') (hop : Performs p op s act)
    (hop' : Performs p op s' act') (htells : op.tells = false) :
    act.result = act'.result ∧ act.journal = act'.journal ∧
      Twins sink full told act.after act'.after := by
  cases hop with
  | launch ws own =>
    cases hop'
    rw [ht.host]
    exact ⟨rfl, rfl, { ht with host := rfl }⟩
  | invoke b ws own =>
    cases hop'
    rw [ht.host]
    exact ⟨rfl, rfl, { ht with host := rfl }⟩
  | run b ws =>
    cases hop'
    rw [ht.host]
    exact ⟨rfl, rfl, { ht with host := rfl }⟩
  | execute => cases htells
  | step => cases htells
  | repl => cases htells

theorem Twins.exists_after (ht : Twins sink full told s s') (hop : Performs p op s act)
    (hop' : Performs p op s' act') : ∃ told', Twins sink full told' act.after act'.after := by
  cases htells : op.tells with
  | true => exact ⟨_, (ht.performs hop hop' htells).after⟩
  | false => exact ⟨_, (ht.performs_elsewhere hop hop' htells).2.2⟩

variable {ops : List Operation} {t t' : Session σ ι} {replies replies' : List Reply}

theorem Twins.exists_performsEach_iff (ht : Twins sink full told s s') :
    (∃ replies t, PerformsEach p ops s replies t) ↔
      ∃ replies' t', PerformsEach p ops s' replies' t' := by
  induction ops generalizing s s' told with
  | nil => exact iff_of_true ⟨_, _, .nil s⟩ ⟨_, _, .nil s'⟩
  | cons op ops ih =>
    constructor
    · rintro ⟨_, _, hrun⟩
      cases hrun with
      | cons hop hrest =>
        obtain ⟨act', hop'⟩ := (ht.exists_performs_iff op).1 ⟨_, hop⟩
        obtain ⟨told', hafter⟩ := ht.exists_after hop hop'
        obtain ⟨replies', t', hrest'⟩ := (ih hafter).1 ⟨_, _, hrest⟩
        exact ⟨_, _, .cons hop' hrest'⟩
    · rintro ⟨_, _, hrun'⟩
      cases hrun' with
      | cons hop' hrest' =>
        obtain ⟨act, hop⟩ := (ht.exists_performs_iff op).2 ⟨_, hop'⟩
        obtain ⟨told', hafter⟩ := ht.exists_after hop hop'
        obtain ⟨replies, t, hrest⟩ := (ih hafter).2 ⟨_, _, hrest'⟩
        exact ⟨_, _, .cons hop hrest⟩

theorem Twins.performsEach (ht : Twins sink full told s s') (hrun : PerformsEach p ops s replies t)
    (hrun' : PerformsEach p ops s' replies' t') :
    RepliesCutShort sink told ops replies' replies ∧
      Twins sink full (told ++ (linesTold ops replies').flatten) t t' := by
  induction hrun generalizing s' told replies' with
  | nil s =>
    cases hrun'
    exact ⟨.nil, by simpa [linesTold] using ht⟩
  | @cons op ops s act replies t hop _ ih =>
    cases hrun' with
    | @cons _ _ _ act' replies' _ hop' hrest' =>
      cases htells : op.tells with
      | true =>
        -- what this operation tells comes in front of what the others tell
        have hacts := ht.performs hop hop' htells
        obtain ⟨hcut, hafter⟩ := ih hacts.after hrest'
        refine ⟨?_, ?_⟩
        · rw [hacts.result]
          exact .here htells hacts.journal hcut
        · rw [List.append_assoc, ← List.flatten_append] at hafter
          simpa [linesTold, htells] using hafter
      | false =>
        obtain ⟨hresult, hjournal, hbehind⟩ := ht.performs_elsewhere hop hop' htells
        obtain ⟨hcut, hafter⟩ := ih hbehind hrest'
        refine ⟨?_, ?_⟩
        · rw [hresult, hjournal]
          exact .elsewhere htells hcut
        · simpa [linesTold, htells] using hafter

end Operations

/-- What becomes of operations on a session with a sink that loses lines, and of the same operations
on its twin, whose sink `full` accepts everything. -/
structure LosesMessagesOnly (s : Session σ ι) (full : Sink) (ops : List Operation)
    (replies replies' : List Reply) (t t' : Session σ ι) : Prop where
  /-- The sink of the twin takes all lines. -/
  twin : t'.diagnostics.accepted.toList
    = full.accepted.toList ++ (linesTold ops replies').flatten
  /-- The sink of the session takes the front of them that it has room for. -/
  accepted : t.diagnostics.accepted.toList
    = s.diagnostics.accepted.toList
      ++ (linesTold ops replies').flatten.take
          (s.diagnostics.fits (linesTold ops replies').flatten.length)
  /-- Line by line, a loss is noted once, right behind the line. -/
  cut : RepliesCutShort s.diagnostics [] ops replies' replies
  answers : replies.map Reply.answer = replies'.map Reply.answer
  /-- All else that is seen is the same, in the same order. -/
  others : (replies.flatMap Reply.journal).filter (fun e => !e.ofTelling)
    = (replies'.flatMap Reply.journal).filter (fun e => !e.ofTelling)
  state : t.state = t'.state
  source : t.source = t'.source
  host : t.host = t'.host

theorem losesMessagesOnly_of_steady {p : Platform σ} (hs : s.diagnostics.Steady)
    (hfull : full.AcceptsAll) {ops : List Operation} {replies replies' : List Reply}
    {t t' : Session σ ι} (hrun : PerformsEach p ops s replies t)
    (hrun' : PerformsEach p ops { s with diagnostics := full } replies' t') :
    LosesMessagesOnly s full ops replies replies' t t' := by
  obtain ⟨hreplies, hafter⟩ := (twins_of_steady hs hfull).performsEach hrun hrun'
  rw [List.nil_append] at hafter
  obtain ⟨fault, hwrote⟩ := hafter.sinks.wrote
  exact
    { twin := hafter.sinks.accepted
      accepted := hwrote.accepted
      cut := hreplies
      answers := hreplies.answers_eq
      others := hreplies.filter_eq
      state := hafter.state
      source := hafter.source
      host := hafter.host }

end Session

end LineShell
