import LineShell.Proofs.Blankness
import LineShell.Proofs.PlainInput
import LineShell.Proofs.Stopping
import Mathlib.Data.List.GetD

/-!
# Interrupts make no difference

A user who interrupts the editor drops the line and gets a new prompt, and that is all. One session
is followed beside another whose editor gives the same results but for the interrupts. At an
interrupt the first one makes a step that does nothing (`idles_of_interrupted`) while the second one
waits; any other step is made by both, and does the same (`UpToInterrupts.step`). So whatever the
first one has come to, the second one comes to with as many reads less as there were interrupts
(`interrupts_make_no_difference`).
-/

namespace LineShell

open LineReader (next result)

/-! ## The results of an editor -/

/-- Results of an editor, but for the interrupts. -/
def withoutInterrupts (rs : List EditorResult) : List EditorResult :=
  rs.filter (· ≠ .interrupted)

theorem withoutInterrupts_interrupted (rs : List EditorResult) :
    withoutInterrupts (.interrupted :: rs) = withoutInterrupts rs := rfl

theorem withoutInterrupts_cons {r : EditorResult} (hr : r ≠ .interrupted) (rs : List EditorResult) :
    withoutInterrupts (r :: rs) = r :: withoutInterrupts rs :=
  List.filter_cons_of_pos (by simpa using hr)

theorem mem_withoutInterrupts {r : EditorResult} {rs : List EditorResult} :
    r ∈ withoutInterrupts rs ↔ r ∈ rs ∧ r ≠ .interrupted := by
  simp [withoutInterrupts]

namespace EditorSource

variable {ε ε' : Type} [LineComposer ε] [LineComposer ε']

/-- The result of the editor that a read comes from, the first one having the number 0. -/
def composed (x : EditorSource ε) (n : Nat) : EditorResult :=
  (LineComposer.compose prompt (LineReader.afterReads x n).editor).result

/-- The results of the editor that the first reads come from. -/
def composedBefore (x : EditorSource ε) (n : Nat) : List EditorResult :=
  (List.range n).map x.composed

theorem result_eq_forShell (x : EditorSource ε) (n : Nat) : result x n = (x.composed n).forShell :=
  result_ofComposed _

theorem composedBefore_succ (x : EditorSource ε) (n : Nat) :
    x.composedBefore (n + 1) = x.composed 0 :: (next x).composedBefore n := by
  rw [composedBefore, List.range_succ_eq_map, List.map_cons, List.map_map]
  rfl

theorem composedBefore_succ_last (x : EditorSource ε) (n : Nat) :
    x.composedBefore (n + 1) = x.composedBefore n ++ [x.composed n] := by
  simp [composedBefore, List.range_succ]

theorem length_composedBefore (x : EditorSource ε) (n : Nat) : (x.composedBefore n).length = n := by
  simp [composedBefore]

theorem mem_composedBefore {x : EditorSource ε} {n : Nat} {r : EditorResult} :
    r ∈ x.composedBefore n ↔ ∃ m < n, x.composed m = r := by
  simp [composedBefore]

/-- An interrupt never stops the loop. -/
theorem composed_ne_interrupted_of_stops {x : EditorSource ε} {n : Nat} (hn : (result x n).Stops) :
    x.composed n ≠ .interrupted := by
  intro hr
  rw [result_eq_forShell, hr] at hn
  revert hn
  decide

/-- The results of one editor without the interrupts are those of another one. -/
def OmitsInterrupts (x : EditorSource ε) (y : EditorSource ε') : Prop :=
  ∀ n, ∃ m, withoutInterrupts (x.composedBefore n) = y.composedBefore m

/-- The editor is not interrupted for ever. -/
def KeepsComposing (x : EditorSource ε) : Prop :=
  ∀ n, ∃ m ≥ n, x.composed m ≠ .interrupted

variable {x : EditorSource ε} {y : EditorSource ε'}

/-- At an interrupt the other editor waits. -/
theorem OmitsInterrupts.next_of_interrupted (hxy : OmitsInterrupts x y)
    (h0 : x.composed 0 = .interrupted) : OmitsInterrupts (next x) y := by
  intro n
  obtain ⟨m, hm⟩ := hxy (n + 1)
  rw [composedBefore_succ, h0, withoutInterrupts_interrupted] at hm
  exact ⟨m, hm⟩

/-- Any other result is the next one of the other editor too. -/
theorem OmitsInterrupts.next_of_ne (hxy : OmitsInterrupts x y) (h0 : x.composed 0 ≠ .interrupted) :
    y.composed 0 = x.composed 0 ∧ OmitsInterrupts (next x) (next y) := by
  have hfront : ∀ n, ∃ m, y.composed 0 = x.composed 0 ∧
      withoutInterrupts ((next x).composedBefore n) = (next y).composedBefore m := by
    intro n
    obtain ⟨m, hm⟩ := hxy (n + 1)
    rw [composedBefore_succ, withoutInterrupts_cons h0] at hm
    cases m with
    | zero => cases hm
    | succ m =>
      rw [composedBefore_succ] at hm
      injection hm with hhead htail
      exact ⟨m, hhead.symm, htail⟩
  obtain ⟨_, hhead, _⟩ := hfront 0
  refine ⟨hhead, fun n => ?_⟩
  obtain ⟨m, _, htail⟩ := hfront n
  exact ⟨m, htail⟩

/-- An editor that is not interrupted for ever gives any number of other results. -/
theorem KeepsComposing.exists_length_le (hx : x.KeepsComposing) (k : Nat) :
    ∃ n, k ≤ (withoutInterrupts (x.composedBefore n)).length := by
  induction k with
  | zero => exact ⟨0, Nat.zero_le _⟩
  | succ k ih =>
    obtain ⟨n, hn⟩ := ih
    obtain ⟨m, hnm, hm⟩ := hx n
    have hsub : (x.composedBefore n).Sublist (x.composedBefore m) :=
      (List.range_sublist.2 hnm).map x.composed
    have hle : (withoutInterrupts (x.composedBefore n)).length
        ≤ (withoutInterrupts (x.composedBefore m)).length := (hsub.filter _).length_le
    have hmore : withoutInterrupts (x.composedBefore (m + 1))
        = withoutInterrupts (x.composedBefore m) ++ [x.composed m] := by
      rw [composedBefore_succ_last]
      exact (List.filter_append _ _).trans (congrArg _ (withoutInterrupts_cons hm []))
    refine ⟨m + 1, ?_⟩
    rw [hmore, List.length_append, List.length_singleton]
    omega

/-- An editor that is not interrupted for ever comes to every stop that there is without the
interrupts. -/
theorem OmitsInterrupts.exists_stops_of_omitted (hxy : OmitsInterrupts x y) (hx : x.KeepsComposing)
    {m : Nat} (hm : (result y m).Stops) : ∃ n, (result x n).Stops := by
  obtain ⟨n, hn⟩ := hx.exists_length_le (m + 1)
  obtain ⟨k, hk⟩ := hxy n
  rw [hk, length_composedBefore] at hn
  have hmem : y.composed m ∈ withoutInterrupts (x.composedBefore n) := by
    rw [hk]
    exact mem_composedBefore.2 ⟨m, hn, rfl⟩
  obtain ⟨l, _, hl⟩ := mem_composedBefore.1 (mem_withoutInterrupts.1 hmem).1
  refine ⟨l, ?_⟩
  rw [result_eq_forShell, hl, ← result_eq_forShell]
  exact hm

/-! ### Listed results -/

/-- The editor that gives its results from a list. -/
def ofResults (rs : List EditorResult) : EditorSource ListedEditor :=
  ⟨⟨rs⟩⟩

theorem next_ofResults (rs : List EditorResult) : next (ofResults rs) = ofResults rs.tail := by
  cases rs with
  | nil => rfl
  | cons r rest =>
    show (ofComposed (ListedEditor.next ⟨r :: rest⟩)).after = ofResults rest
    unfold ofComposed
    split
    · split <;> rfl
    all_goals rfl

theorem composed_ofResults (rs : List EditorResult) (n : Nat) :
    (ofResults rs).composed n = rs.getD n .endOfInput := by
  induction n generalizing rs with
  | zero => cases rs <;> rfl
  | succ n ih =>
    have hrest := ih rs.tail
    rw [← next_ofResults] at hrest
    refine Eq.trans hrest ?_
    cases rs <;> rfl

theorem omitsInterrupts_ofResults (rs : List EditorResult) :
    OmitsInterrupts (ofResults rs) (ofResults (withoutInterrupts rs)) := by
  intro n
  induction n generalizing rs with
  | zero => exact ⟨0, rfl⟩
  | succ n ih =>
    obtain ⟨m, hm⟩ := ih rs.tail
    rw [composedBefore_succ, next_ofResults]
    cases rs with
    | nil =>
      refine ⟨m + 1, ?_⟩
      rw [composedBefore_succ, next_ofResults]
      exact congrArg (EditorResult.endOfInput :: ·) hm
    | cons r rest =>
      by_cases hr : r = .interrupted
      · subst hr
        exact ⟨m, hm⟩
      · refine ⟨m + 1, ?_⟩
        rw [withoutInterrupts_cons hr, composedBefore_succ, next_ofResults]
        exact (withoutInterrupts_cons hr _).trans (congrArg (r :: ·) hm)

theorem keepsComposing_ofResults (rs : List EditorResult) : (ofResults rs).KeepsComposing := by
  intro n
  refine ⟨max n rs.length, Nat.le_max_left n rs.length, ?_⟩
  rw [composed_ofResults, List.getD_eq_default _ _ (Nat.le_max_right n rs.length)]
  decide

/-- Of the first results those are interrupts that are so in the list. -/
theorem count_composedBefore_ofResults (rs : List EditorResult) (n : Nat) :
    ((ofResults rs).composedBefore n).count .interrupted = (rs.take n).count .interrupted := by
  induction n generalizing rs with
  | zero => rfl
  | succ n ih =>
    rw [composedBefore_succ, next_ofResults, List.count_cons, ih]
    cases rs with
    | nil => simp [composed_ofResults]
    | cons r rest =>
      rw [List.take_succ_cons, List.count_cons]
      rfl

end EditorSource

/-! ## One session beside another -/

namespace Session

variable {σ ε ε' : Type} [LineComposer ε] [LineComposer ε']

/-- Two sessions that differ in their editors only, and in these by the interrupts of the first
one. -/
structure UpToInterrupts (s : Session σ (EditorSource ε)) (t : Session σ (EditorSource ε')) :
    Prop where
  surroundings : t.toSurroundings = s.toSurroundings
  state : t.state = s.state
  source : EditorSource.OmitsInterrupts s.source t.source

/-- Two sessions have done the same and are the same up to interrupts. The first one, which began
with the editor `x`, has made one read more for every interrupt. -/
structure KeepPace (x : EditorSource ε) (j : Journal) (s : Session σ (EditorSource ε)) (k : Journal)
    (t : Session σ (EditorSource ε')) : Prop where
  /-- The requests, diagnostics and events, in order. -/
  deeds : k.deeds = j.deeds
  /-- The lines added to the history, in order. -/
  remembered : k.remembered = j.remembered
  /-- The lines carried out that have words. -/
  commands : k.dispatches.filter (· ≠ []) = j.dispatches.filter (· ≠ [])
  reads : j.reads.length = k.reads.length + (x.composedBefore j.reads.length).count .interrupted
  after : UpToInterrupts s t

variable (h : Host σ)

/-- A step that has read an empty line and has done nothing. -/
structure Idles (s : Session σ (EditorSource ε)) : Prop where
  result : (step h s).result = .ok .running
  after : (step h s).after = { s with source := next s.source }
  deeds : (step h s).journal.deeds = []
  remembered : (step h s).journal.remembered = []
  dispatches : (step h s).journal.dispatches = [[]]
  reads : (step h s).journal.reads = [.line []]

/-- A step of two sessions that is the same up to what is shown of asking for the line. -/
structure StepAlike (s : Session σ (EditorSource ε)) (t : Session σ (EditorSource ε')) : Prop where
  result : (step h t).result = (step h s).result
  deeds : (step h t).journal.deeds = (step h s).journal.deeds
  remembered : (step h t).journal.remembered = (step h s).journal.remembered
  dispatches : (step h t).journal.dispatches = (step h s).journal.dispatches
  reads : (step h t).journal.reads = (step h s).journal.reads
  after : UpToInterrupts (step h s).after (step h t).after

variable {s : Session σ (EditorSource ε)} {t : Session σ (EditorSource ε')}

/-- A step adds to the history what the result of the editor says. -/
theorem remembered_step (hs : s.state = .running) :
    (step h s).journal.remembered = (s.source.composed 0).recorded := by
  have hreading : (LineReader.readLine prompt s.source).journal.remembered
      = (s.source.composed 0).recorded := EditorSource.remembered_readLine prompt s.source
  rw [step_of_running h hs]
  simp [hreading, remembered_handle]

theorem idles_of_interrupted (hs : s.state = .running) (h0 : s.source.composed 0 = .interrupted) :
    Idles h s := by
  have hr : result s.source 0 = .line [] := by
    rw [EditorSource.result_eq_forShell, h0]
    rfl
  have hgo : ¬ (result s.source 0).Stops := by
    rw [hr]
    decide
  obtain ⟨hdeeds, _⟩ := deeds_step_of_not_stops h hs hgo
  refine
    { result := ?_
      after := ?_
      deeds := ?_
      remembered := ?_
      dispatches := ?_
      reads := ?_ }
  · rw [result_step h hs, hr]
    rfl
  · rw [step_of_running h hs, hr]
    rfl
  · rw [hdeeds, hr]
    rfl
  · rw [remembered_step h hs, h0]
    rfl
  · rw [dispatches_step h hs, hr]
    rfl
  · rw [reads_step h hs, hr]

theorem UpToInterrupts.next_of_interrupted (hst : UpToInterrupts s t) (hs : s.state = .running)
    (h0 : s.source.composed 0 = .interrupted) : UpToInterrupts (step h s).after t := by
  rw [(idles_of_interrupted h hs h0).after]
  exact
    { surroundings := hst.surroundings
      state := hst.state
      source := hst.source.next_of_interrupted h0 }

/-- Any other result of the editor makes both sessions go on. -/
theorem UpToInterrupts.step (hst : UpToInterrupts s t) (hs : s.state = .running)
    (h0 : s.source.composed 0 ≠ .interrupted) : StepAlike h s t := by
  obtain ⟨hcomposed, hnext⟩ := hst.source.next_of_ne h0
  have ht : t.state = .running := hst.state.trans hs
  have hresult : result t.source 0 = result s.source 0 := by
    rw [EditorSource.result_eq_forShell, EditorSource.result_eq_forShell, hcomposed]
  have hhandle := handle_of_same h hst.surroundings hst.state (result s.source 0) (next s.source)
    (next t.source)
  have hreading := Journal.deeds_of_reading (LineReader.ofReading_readLine prompt s.source)
  have hreading' := Journal.deeds_of_reading (LineReader.ofReading_readLine prompt t.source)
  refine
    { result := ?_
      deeds := ?_
      remembered := ?_
      dispatches := ?_
      reads := ?_
      after := ?_ }
  · rw [step_of_running h hs, step_of_running h ht, hresult, hhandle]
  · rw [step_of_running h hs, step_of_running h ht, hresult, hhandle]
    simp only [Journal.deeds_append, hreading, hreading']
  · rw [remembered_step h hs, remembered_step h ht, hcomposed]
  · rw [dispatches_step h hs, dispatches_step h ht, hresult]
  · rw [reads_step h hs, reads_step h ht, hresult]
  · rw [step_of_running h hs, step_of_running h ht, hresult, hhandle]
    exact
      { surroundings := rfl
        state := rfl
        source := by simpa only [source_handle] using hnext }

/-! ## Runs -/

variable {j k : Journal} {a : Session σ (EditorSource ε)} {b : Session σ (EditorSource ε')}

theorem KeepPace.refl (hst : UpToInterrupts s t) : KeepPace s.source [] s [] t where
  deeds := rfl
  remembered := rfl
  commands := rfl
  reads := rfl
  after := hst

/-- The second session waits for the first one to be done with an interrupt. -/
theorem KeepPace.behind_interrupt (hs : s.state = .running)
    (h0 : s.source.composed 0 = .interrupted) (hrest : KeepPace (next s.source) j a k b) :
    KeepPace s.source ((Session.step h s).journal ++ j) a k b := by
  have hidle := idles_of_interrupted h hs h0
  refine
    { deeds := ?_
      remembered := ?_
      commands := ?_
      reads := ?_
      after := hrest.after }
  · rw [Journal.deeds_append, hidle.deeds, hrest.deeds, List.nil_append]
  · rw [Journal.remembered_append, hidle.remembered, hrest.remembered, List.nil_append]
  · rw [Journal.dispatches_append, hidle.dispatches, hrest.commands]
    rfl
  · have hreads := hrest.reads
    rw [Journal.reads_append, hidle.reads, List.singleton_append, List.length_cons,
      EditorSource.composedBefore_succ, h0, List.count_cons_self]
    omega

/-- Both sessions make a step. -/
theorem KeepPace.behind_step (hst : UpToInterrupts s t) (hs : s.state = .running)
    (h0 : s.source.composed 0 ≠ .interrupted) (hrest : KeepPace (next s.source) j a k b) :
    KeepPace s.source ((Session.step h s).journal ++ j) a ((Session.step h t).journal ++ k) b := by
  have halike := hst.step h hs h0
  refine
    { deeds := ?_
      remembered := ?_
      commands := ?_
      reads := ?_
      after := hrest.after }
  · rw [Journal.deeds_append, Journal.deeds_append, halike.deeds, hrest.deeds]
  · rw [Journal.remembered_append, Journal.remembered_append, halike.remembered, hrest.remembered]
  · rw [Journal.dispatches_append, Journal.dispatches_append, List.filter_append,
      List.filter_append, halike.dispatches, hrest.commands]
  · have hreads := hrest.reads
    rw [Journal.reads_append, Journal.reads_append, halike.reads, reads_step h hs,
      List.singleton_append, List.singleton_append, List.length_cons, List.length_cons,
      EditorSource.composedBefore_succ, List.count_cons_of_ne h0]
    omega

/-- As long as the first session goes on, interrupts apart, the second one keeps pace with it. -/
theorem UpToInterrupts.steps (hst : UpToInterrupts s t) (n : Nat) :
    ∃ m ≤ n, KeepPace s.source (Session.steps h n s).journal (Session.steps h n s).after
      (Session.steps h m t).journal (Session.steps h m t).after := by
  induction n generalizing s t with
  | zero => exact ⟨0, Nat.le_refl 0, .refl hst⟩
  | succ n ih =>
    cases hs : s.state with
    | stopped d =>
      rw [steps_of_stopped h hs]
      exact ⟨0, Nat.zero_le _, .refl hst⟩
    | running =>
      rw [journal_steps_succ, after_steps_succ]
      by_cases h0 : s.source.composed 0 = .interrupted
      · obtain ⟨m, hm, hrest⟩ := ih (hst.next_of_interrupted h hs h0)
        rw [source_step h hs] at hrest
        exact ⟨m, Nat.le_succ_of_le hm, hrest.behind_interrupt h hs h0⟩
      · obtain ⟨m, hm, hrest⟩ := ih (hst.step h hs h0).after
        rw [source_step h hs] at hrest
        exact ⟨m + 1, Nat.succ_le_succ hm, hrest.behind_step h hst hs h0⟩

/-- If the first session comes to the end of the loop, so does the second one, with the same
result. -/
theorem UpToInterrupts.completes (hst : UpToInterrupts s t)
    {act : Act (Except ShellError Unit) (Session σ (EditorSource ε))} (hact : Completes h s act) :
    ∃ act', Completes h t act' ∧ act'.result = act.result ∧
      KeepPace s.source act.journal act.after act'.journal act'.after := by
  -- the induction follows the first run; the second one may be behind by any number of interrupts
  induction hact generalizing t with
  | stopped hs =>
    have ht : t.state ≠ .running := by rwa [hst.state]
    exact ⟨_, .stopped ht, rfl, .refl hst⟩
  | @failed s e hs he =>
    have h0 : s.source.composed 0 ≠ .interrupted := by
      intro h0
      rw [(idles_of_interrupted h hs h0).result] at he
      cases he
    have halike := hst.step h hs h0
    have hnone :
        KeepPace (next s.source) [] (Session.step h s).after [] (Session.step h t).after := by
      rw [← source_step h hs]
      exact .refl halike.after
    have hend := hnone.behind_step h hst hs h0
    rw [List.append_nil, List.append_nil] at hend
    rw [← halike.result] at he
    exact ⟨_, .failed (hst.state.trans hs) he, rfl, hend⟩
  | @next s st act hs ho hrest ih =>
    by_cases h0 : s.source.composed 0 = .interrupted
    · obtain ⟨act', hact', hresult, hpace⟩ := ih (hst.next_of_interrupted h hs h0)
      rw [source_step h hs] at hpace
      exact ⟨act', hact', hresult, hpace.behind_interrupt h hs h0⟩
    · have halike := hst.step h hs h0
      obtain ⟨act', hact', hresult, hpace⟩ := ih halike.after
      rw [source_step h hs] at hpace
      rw [← halike.result] at ho
      exact ⟨_, .next (hst.state.trans hs) ho hact', hresult, hpace.behind_step h hst hs h0⟩

/-- If the second session comes to the end of the loop, so does the first one, unless it is
interrupted for ever. -/
theorem UpToInterrupts.exists_completes (hst : UpToInterrupts s t) (hx : s.source.KeepsComposing)
    {act' : Act (Except ShellError Unit) (Session σ (EditorSource ε'))}
    (hact' : Completes h t act') :
    ∃ act, Completes h s act := by
  cases hs : s.state with
  | stopped d => exact ⟨_, (completes_iff_of_stopped h hs).2 rfl⟩
  | running =>
    have ht : t.state = .running := hst.state.trans hs
    obtain ⟨m, hm⟩ := Completes.exists_firstStop h hact' ht
    obtain ⟨_, hstops⟩ := hst.source.exists_stops_of_omitted hx hm.1
    obtain ⟨n, hn⟩ := LineReader.exists_firstStop hstops
    exact ⟨_, completes_of_firstStop h hs hn⟩

/-! ## The end of a run -/

/-- A run has ended with a fault, which is told with its text last. -/
structure FailsWith (act : Act (Except ShellError Unit) (Session σ (EditorSource ε)))
    (cause : Fault)
    (text : Bytes) : Prop where
  result : act.result = .error (.read cause)
  message : cause.message = text
  state : act.after.state = .stopped .failed
  diagnosed : act.journal.diagnosed.getLast? = some (utf8 "$: readline: " ++ text ++ utf8 "\n")

/-- A run has ended with a result of its editor. -/
structure EndsBy (act : Act (Except ShellError Unit) (Session σ (EditorSource ε)))
    (r : EditorResult) :
    Prop where
  ne_interrupted : r ≠ .interrupted
  line : ∀ cs, r = .line cs → (tokenize (encode cs)).head? = some (utf8 "exit") ∧
    act.result = .ok () ∧ act.after.state = .stopped .clean
  endOfInput : r = .endOfInput → act.result = .ok () ∧ act.after.state = .stopped .clean
  failed : ∀ cause, r = .failed cause → FailsWith act cause cause.message
  /-- What the editor says of its failure is the text of the fault. -/
  broken : ∀ reason, r = .broken reason → FailsWith act (.other reason) (utf8 reason)

theorem failsWith_of_failed (hs : s.state = .running) {n : Nat}
    (hn : LineReader.FirstStop s.source n) {cause : Fault}
    (hlast : result s.source n = .failed cause) :
    FailsWith ⟨(result s.source n).ending, (Session.steps h (n + 1) s).journal,
      (Session.steps h (n + 1) s).after⟩ cause cause.message := by
  refine
    { result := ?_
      message := rfl
      state := ?_
      diagnosed := getLast?_diagnosed_of_failed h hs hn hlast }
  · rw [hlast]
    rfl
  · exact (state_steps h hs n hn.2).trans (by rw [hlast]; rfl)

theorem exists_endsBy (hs : s.state = .running)
    {act : Act (Except ShellError Unit) (Session σ (EditorSource ε))} (hact : Completes h s act) :
    ∃ n, act.journal.reads.length = n + 1 ∧ EndsBy act (s.source.composed n) := by
  obtain ⟨n, hn, rfl⟩ := (completes_iff_firstStop h hs).1 hact
  have hresult : ∀ r, s.source.composed n = r → result s.source n = r.forShell := by
    rintro _ rfl
    exact s.source.result_eq_forShell n
  refine ⟨n, ?_,
    { ne_interrupted := EditorSource.composed_ne_interrupted_of_stops hn.1
      line := fun cs hr => ?_
      endOfInput := fun hr => ?_
      failed := fun cause hr => failsWith_of_failed h hs hn (hresult _ hr)
      broken := fun reason hr => ?_ }⟩
  · rw [reads_steps h hs n hn.2, LineReader.length_results]
  · have hend : result s.source n = .line (encode cs) := hresult _ hr
    have hexit := hn.1
    rw [hend] at hexit
    refine ⟨hexit, ?_, (state_steps h hs n hn.2).trans ?_⟩
    · rw [hend]
      rfl
    · rw [hend]
      exact if_pos hexit
  · have hend : result s.source n = .endOfInput := hresult _ hr
    refine ⟨?_, (state_steps h hs n hn.2).trans ?_⟩
    · rw [hend]
      rfl
    · rw [hend]
      rfl
  · have hfails := failsWith_of_failed h hs hn (hresult _ hr)
    rwa [Fault.message_other] at hfails

/-- **Interrupts make no difference.** Let one editor give the results of another, and interrupts in
any number at any places between them. Two sessions over these editors keep pace: whenever the first
one has made a number of steps, the second one has done the same with as many reads less as there
were interrupts. When the first one comes to the end of the loop, so does the second one: with the
same requests, diagnostics and events in the same order, the same lines added to the history, the
same state and the same result; and the first one comes to it if the second one does, unless it is
interrupted for ever. For an editor with a list of results these are the runs with and without the
interrupts of the list.

So an interrupt is a step that does nothing, and never the last one. The end of the input stops the
loop cleanly, and any failure of the editor stops it with an error of the same text. On an editor
that is finite this is how `repl` ends. -/
theorem interrupts_make_no_difference (h : Host σ) :
    (∀ {s : Session σ (EditorSource ε)} {t : Session σ (EditorSource ε')}, UpToInterrupts s t →
      (∀ n, ∃ m ≤ n, KeepPace s.source (Session.steps h n s).journal (Session.steps h n s).after
        (Session.steps h m t).journal (Session.steps h m t).after) ∧
      (∀ act, Completes h s act → ∃ act', Completes h t act' ∧ SameDeeds act act' ∧
        KeepPace s.source act.journal act.after act'.journal act'.after) ∧
      (s.source.KeepsComposing → (∃ act', Completes h t act') → ∃ act, Completes h s act)) ∧
    (∀ (a : Surroundings σ) (rs : List EditorResult),
      let s : Session σ (EditorSource ListedEditor) := { a with source := .ofResults rs }
      let t : Session σ (EditorSource ListedEditor) :=
        { a with source := .ofResults (rs.filter (· ≠ .interrupted)) }
      SameDeeds (s.repl h) (t.repl h) ∧
        (t.repl h).journal.remembered = (s.repl h).journal.remembered ∧
        (s.repl h).journal.reads.length = (t.repl h).journal.reads.length
          + (rs.take (s.repl h).journal.reads.length).count .interrupted) ∧
    (∀ {s : Session σ (EditorSource ε)}, s.state = .running →
      (s.source.composed 0 = .interrupted → Idles h s) ∧
      ∀ act, Completes h s act →
        ∃ n, act.journal.reads.length = n + 1 ∧ EndsBy act (s.source.composed n)) ∧
    ∀ {δ : Type} [LineEditor δ] {u : Session σ (EditorSource δ)}, u.state = .running →
      ∃ n, (u.repl h).journal.reads.length = n + 1 ∧ EndsBy (u.repl h) (u.source.composed n) := by
  refine ⟨fun {s t} hst => ⟨hst.steps h, ?_, ?_⟩, ?_, fun {s} hs => ⟨?_, ?_⟩, fun {δ _ u} hu => ?_⟩
  · intro act hact
    obtain ⟨act', hact', hresult, hpace⟩ := hst.completes h hact
    exact ⟨act', hact', .of_deeds hpace.deeds hpace.after.surroundings hpace.after.state hresult,
      hpace⟩
  · rintro hx ⟨act', hact'⟩
    exact hst.exists_completes h hx hact'
  · intro a rs s t
    have hst : UpToInterrupts s t :=
      { surroundings := rfl
        state := rfl
        source := EditorSource.omitsInterrupts_ofResults rs }
    obtain ⟨act', hact', hresult, hpace⟩ := hst.completes h (completes_repl h s)
    obtain rfl := completes_iff_eq_repl.1 hact'
    refine ⟨.of_deeds hpace.deeds hpace.after.surroundings hpace.after.state hresult,
      hpace.remembered, ?_⟩
    rw [← EditorSource.count_composedBefore_ofResults]
    exact hpace.reads
  · exact idles_of_interrupted h hs
  · intro act hact
    exact exists_endsBy h hs hact
  · exact exists_endsBy h hu (completes_repl h u)

/-- An editor that is interrupted before a command and before it breaks down. -/
theorem interrupts_make_no_difference_of_broken :
    let rs : List EditorResult :=
      [.interrupted, .line ['c', 'd'], .interrupted, .interrupted, .broken "out"]
    let s : Session Unit (EditorSource ListedEditor) :=
      { host := (), diagnostics := .unlimited, source := .ofResults rs }
    let t : Session Unit (EditorSource ListedEditor) :=
      { host := (), diagnostics := .unlimited
        source := .ofResults [.line ['c', 'd'], .broken "out"] }
    UpToInterrupts s t ∧ s.source.KeepsComposing ∧ s.state = .running ∧
      s.source.composed 0 = .interrupted ∧ Idles Host.refusing s ∧
      ∃ act act', Completes Host.refusing s act ∧ Completes Host.refusing t act' ∧
        SameDeeds act act' ∧ act'.journal.remembered = act.journal.remembered ∧
        act.journal.reads.length = act'.journal.reads.length + 3 ∧ EndsBy act (.broken "out") := by
  intro rs s t
  have hst : UpToInterrupts s t :=
    { surroundings := rfl
      state := rfl
      source := EditorSource.omitsInterrupts_ofResults rs }
  have hx : s.source.KeepsComposing := EditorSource.keepsComposing_ofResults rs
  obtain ⟨hpace, -, hends, -⟩ :=
    @interrupts_make_no_difference Unit ListedEditor ListedEditor _ _ Host.refusing
  obtain ⟨-, hcompletes, hback⟩ := hpace hst
  obtain ⟨hidles, hlast⟩ := hends (s := s) rfl
  obtain ⟨act, hact⟩ := hback hx ⟨_, completes_repl Host.refusing t⟩
  obtain ⟨act', hact', hdeeds, hsame⟩ := hcompletes act hact
  obtain ⟨n, hreads, hend⟩ := hlast act hact
  -- the first stop is the result with the number 4
  have hstop : LineReader.FirstStop s.source 4 := by
    unfold LineReader.FirstStop
    decide
  have hlength : act.journal.reads.length = 5 := by
    rw [completes_iff_eq_repl.1 hact, reads_repl Host.refusing rfl hstop,
      LineReader.length_results]
  obtain rfl : n = 4 := by omega
  have hcount := hsame.reads
  rw [hlength] at hcount
  exact ⟨hst, hx, rfl, rfl, hidles rfl, act, act', hact, hact', hdeeds, hsame.remembered,
    hlength.trans hcount, hend⟩

end Session

end LineShell
