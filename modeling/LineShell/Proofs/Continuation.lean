import LineShell.Proofs.SameWords
import Mathlib.Data.List.GetD

/-!
# One script behind another

A script behind another one is carried out the way it would be on its own, by a loop that begins in
the state in which the first one leaves the operating system: only the end of the input between them
is gone (`repl_of_joined_scripts`). If the first script has an `exit` line, the second one is never
looked at.
-/

namespace LineShell

variable {σ ι κ μ : Type}

/-! ## Readers -/

namespace LineReader

variable [LineReader ι] [LineReader κ] [LineReader μ]

/-- The reader `u` gives the first `n` results of `s`, and then the results of `t`. -/
structure Continues (u : μ) (s : ι) (n : Nat) (t : κ) : Prop where
  before : ∀ m < n, result u m = result s m
  behind : ∀ m, result u (n + m) = result t m

variable {u : μ} {s : ι} {t : κ} {n : Nat}

theorem Continues.of_answers {l l' : List ReadResult} (hs : Answers s l) (ht : Answers t l')
    (hu : Answers u (l ++ l')) : Continues u s l.length t where
  before m hm := by
    rw [hu m, hs m, List.getD_append _ _ _ _ hm]
  behind m := by
    rw [hu (l.length + m), ht m, List.getD_append_right _ _ _ _ (Nat.le_add_right _ _),
      Nat.add_sub_cancel_left]

theorem Continues.results_add (h : Continues u s n t) (m : Nat) :
    results u (n + m) = results s n ++ results t m := by
  have hfront : results u n = results s n := by
    rw [results_eq_map_range, results_eq_map_range]
    exact List.map_congr_left fun k hk => h.before k (List.mem_range.1 hk)
  have hrest : results (afterReads u n) m = results t m := by
    rw [results_eq_map_range, results_eq_map_range]
    refine List.map_congr_left fun k _ => ?_
    rw [result_afterReads, h.behind]
  rw [LineReader.results_add, hfront, hrest]

/-- If the first results do not stop the loop, the first stop is that of the reader behind. -/
theorem Continues.firstStop (h : Continues u s n t) (hs : ∀ m < n, ¬ (result s m).Stops) {m : Nat}
    (ht : FirstStop t m) : FirstStop u (n + m) := by
  refine ⟨?_, fun k hk => ?_⟩
  · rw [h.behind]
    exact ht.1
  · by_cases hkn : k < n
    · rw [h.before k hkn]
      exact hs k hkn
    · obtain ⟨j, rfl⟩ := Nat.exists_eq_add_of_le (Nat.le_of_not_lt hkn)
      rw [h.behind]
      exact ht.2 j (by omega)

/-- Readers that answer from lists with the same front, in which there is a stop, give the same
results up to it. -/
theorem sameResults_of_answers_append {l l' : List ReadResult} (hs : Answers s l)
    (hu : Answers u (l ++ l')) (hl : ∃ r ∈ l, r.Stops) : SameResults s u := by
  intro m hm
  have hlt : m < l.length := by
    obtain ⟨r, hr, hstop⟩ := hl
    obtain ⟨k, hk, rfl⟩ := List.getElem_of_mem hr
    refine Nat.lt_of_le_of_lt (Nat.le_of_not_lt fun hlt => hm k hlt ?_) hk
    rw [hs k, List.getD_eq_getElem _ _ hk]
    exact hstop
  rw [hs m, hu m, List.getD_append _ _ _ _ hlt]

end LineReader

/-! ## Runs -/

namespace Session

open LineReader (result results FirstStop SameResults Answers Continues)

/-- The third run does what the first two do one after the other. Of what they read only the last
result of the first one, the end of its input, is left out. -/
structure Composes (first : Act (Except ShellError Unit) (Session σ ι))
    (second : Act (Except ShellError Unit) (Session σ κ))
    (both : Act (Except ShellError Unit) (Session σ μ)) : Prop where
  requests : both.journal.requests = first.journal.requests ++ second.journal.requests
  diagnosed : both.journal.diagnosed = first.journal.diagnosed ++ second.journal.diagnosed
  reads : ∃ before, first.journal.reads = before ++ [.endOfInput] ∧
    both.journal.reads = before ++ second.journal.reads
  /-- One read less than the two of them make. -/
  length_reads : both.journal.reads.length
    = first.journal.reads.length - 1 + second.journal.reads.length
  host : both.after.host = second.after.host
  state : both.after.state = second.after.state
  result : both.result = second.result

variable (h : Host σ)

section Sources

variable [LineSource ι] [LineSource κ] [LineSource μ]
variable {s : Session σ ι} {t : Session σ κ} {u : Session σ μ}

variable {n : Nat}

theorem composes_of_continues (hs : s.state = .running) (ht : t.state = .running)
    (hu : u.state = .running) (hus : u.host = s.host) (hts : t.host = (s.repl h).after.host)
    (hn : FirstStop s.source n) (hend : result s.source n = .endOfInput)
    (hc : Continues u.source s.source n t.source) :
    Composes (s.repl h) (t.repl h) (u.repl h) := by
  obtain ⟨m, hm, _⟩ := exists_repl_eq h ht
  obtain ⟨stop, hstop⟩ := (ReadResult.stops_iff_exists_stop _).1 hm.1
  have hboth := hc.firstStop hn.2 hm
  have hstop' : (result u.source (n + m)).stop? = some stop := by rwa [hc.behind]
  have hclean : (result s.source n).stop? = some .endOfInput := by rw [hend]; rfl
  have hcommands : commandsOf (results u.source (n + m))
      = commandsOf (results s.source n) ++ commandsOf (results t.source m) := by
    rw [hc.results_add, commandsOf_append]
  -- the operating system that the second run begins with is the one that the first commands leave
  have hleft := (view_repl h Journal.sinkBlind_requests hs hn hclean).2
  have hview : ∀ {α : Type} {view : Journal → List α}, Journal.SinkBlind view →
      view (u.repl h).journal = view (s.repl h).journal ++ view (t.repl h).journal ∧
        (u.repl h).after.host = (t.repl h).after.host := by
    intro α view hview
    obtain ⟨hfirst, _⟩ := view_repl h hview hs hn hclean
    obtain ⟨hsecond, hhost⟩ := view_repl h hview ht hm hstop
    obtain ⟨hjoined, hhost'⟩ := view_repl h hview hu hboth hstop'
    rw [hts, hleft] at hsecond hhost
    rw [hcommands, hus, Effect.ofCommands_append] at hjoined hhost'
    have hnone : view (Stop.endOfInput.close s.toSurroundings).1 = [] := hview.logged .endOfInput
    refine ⟨?_, hhost'.trans hhost.symm⟩
    rw [hjoined, hfirst, hsecond, hnone, hview.append, List.append_nil, List.append_assoc,
      hview.close stop u.toSurroundings t.toSurroundings]
  obtain ⟨_, _, hstate, hresult⟩ := repl_eq_carryOut h ht hm hstop rfl
  obtain ⟨_, _, hstate', hresult'⟩ := repl_eq_carryOut h hu hboth hstop' rfl
  have hreads : (s.repl h).journal.reads = results s.source n ++ [.endOfInput] := by
    rw [reads_repl h hs hn, LineReader.results_succ_eq_append, hend]
  have hreads' : (u.repl h).journal.reads = results s.source n ++ (t.repl h).journal.reads := by
    rw [reads_repl h hu hboth, reads_repl h ht hm, Nat.add_assoc, hc.results_add]
  exact
    { requests := (hview Journal.sinkBlind_requests).1
      diagnosed := (hview Journal.sinkBlind_diagnosed).1
      reads := ⟨results s.source n, hreads, hreads'⟩
      length_reads := by rw [hreads, hreads', List.length_append, List.length_append]; simp
      host := (hview Journal.sinkBlind_requests).2
      state := hstate'.trans hstate.symm
      result := hresult'.trans hresult.symm }

/-- On the sink that the first run leaves, and on any one if all diagnostics are accepted, what the
runs do fits together, down to every event and every byte of a diagnostic. -/
theorem deeds_of_continues (hs : s.state = .running) (ht : t.state = .running)
    (hu : u.state = .running) (hus : u.toSurroundings = s.toSurroundings)
    (hts : t.host = (s.repl h).after.host)
    (hsink : t.diagnostics = (s.repl h).after.diagnostics ∨
      s.diagnostics.AcceptsAll ∧ t.diagnostics.AcceptsAll)
    (hn : FirstStop s.source n) (hend : result s.source n = .endOfInput)
    (hc : Continues u.source s.source n t.source) :
    ∃ before, (s.repl h).journal.deeds = before ++ [.logged .endOfInput] ∧
      (u.repl h).journal.deeds = before ++ (t.repl h).journal.deeds := by
  obtain ⟨m, hm, _⟩ := exists_repl_eq h ht
  obtain ⟨stop, hstop⟩ := (ReadResult.stops_iff_exists_stop _).1 hm.1
  have hboth := hc.firstStop hn.2 hm
  have hstop' : (result u.source (n + m)).stop? = some stop := by rwa [hc.behind]
  have hclean : (result s.source n).stop? = some .endOfInput := by rw [hend]; rfl
  obtain ⟨hfirst, hleft, _⟩ := repl_eq_carryOut h hs hn hclean rfl
  obtain ⟨hsecond, _⟩ := repl_eq_carryOut h ht hm hstop rfl
  obtain ⟨hdeeds, _⟩ := repl_eq_carryOut h hu hboth hstop' rfl
  rw [hc.results_add, commandsOf_append, hus, carryOut_append] at hdeeds
  -- the commands of the second run do the same behind the first one and on their own
  have hsame : ∀ wss,
      (carryOut h wss t.toSurroundings).1 = (carryOut h wss (s.repl h).after.toSurroundings).1 ∧
        (stop.close (carryOut h wss t.toSurroundings).2).1
          = (stop.close (carryOut h wss (s.repl h).after.toSurroundings).2).1 := by
    intro wss
    rcases hsink with hsame | ⟨hall, hall'⟩
    · have heq : t.toSurroundings = (s.repl h).after.toSurroundings :=
        congrArg₂ Surroundings.mk hts hsame
      rw [heq]
      exact ⟨rfl, rfl⟩
    · have hleft' : (s.repl h).after.diagnostics.AcceptsAll := by
        have hsinks := congrArg Surroundings.diagnostics hleft
        rw [hsinks]
        exact (carryOut_of_acceptsAll h _ hall).2.2
      obtain ⟨hjournal, _, hsinks⟩ := carryOut_of_acceptsAll h wss hall'
      obtain ⟨hjournal', _, hsinks'⟩ := carryOut_of_acceptsAll h wss hleft'
      refine ⟨?_, stop.close_of_acceptsAll hsinks hsinks'⟩
      rw [hjournal, hjournal', hts]
  obtain ⟨hjournal, hclose⟩ := hsame (commandsOf (results t.source m))
  rw [hjournal, hclose, hleft] at hsecond
  refine ⟨(carryOut h (commandsOf (results s.source n)) s.toSurroundings).1.deeds, hfirst, ?_⟩
  rw [hdeeds, hsecond, Journal.deeds_append, List.append_assoc]
  rfl

end Sources

/-! ## Scripts -/

/-- A running session whose stream delivers a script. -/
structure RunsOver (s : Session σ StreamSource) (script : Bytes) : Prop where
  running : s.state = .running
  delivers : s.source.supply.Delivers script

theorem RunsOver.answers {s : Session σ StreamSource} {script : Bytes} (hs : RunsOver s script) :
    Answers s.source ((lines script).map .line) := by
  intro n
  rw [StreamSource.result_eq]
  exact hs.delivers.readLine_afterLines n

/-- A script without an `exit` line is read to its end. -/
theorem RunsOver.firstStop {s : Session σ StreamSource} {script : Bytes} (hs : RunsOver s script)
    (hexit : ∀ l ∈ lines script, (words l).head? ≠ some (utf8 "exit")) :
    FirstStop s.source (lines script).length ∧
      result s.source (lines script).length = .endOfInput := by
  have hend : result s.source (lines script).length = .endOfInput := by
    rw [hs.answers, List.getD_eq_default _ _ (by simp)]
  refine ⟨⟨?_, fun m hm => ?_⟩, hend⟩
  · rw [hend]
    trivial
  · have hm' : m < ((lines script).map ReadResult.line).length := by simpa using hm
    rw [hs.answers, List.getD_eq_getElem _ _ hm', List.getElem_map]
    have hline := hexit _ (List.getElem_mem hm)
    rw [← tokenize_eq_words] at hline
    exact hline

/-- **Sessions compose.** Let the script `a` be empty or end with a newline, and let a script `b`
stand behind it. If no line of `a` is an `exit` line, the loop over both does what it does over `a`
and then over `b` from the state in which `a` leaves the operating system: the same requests and
diagnostics in the same order, the same reads without the end of the input between them, and the
same state and result in the end. With the sink that `a` leaves, or with any one if all diagnostics
are accepted, this goes for every event and every byte of a diagnostic. If some line of `a` is an
`exit` line, the loop over both cannot be told from the one over `a`, whatever `b` is. -/
theorem repl_of_joined_scripts {a b : Bytes} (ha : a = [] ∨ a.getLast? = some newline)
    {s u : Session σ StreamSource} (hs : RunsOver s a) (hu : RunsOver u (a ++ b))
    (hus : u.toSurroundings = s.toSurroundings) :
    ((∀ l ∈ lines a, (words l).head? ≠ some (utf8 "exit")) →
      ∀ t : Session σ StreamSource, RunsOver t b → t.host = (s.repl h).after.host →
        Composes (s.repl h) (t.repl h) (u.repl h) ∧
        (t.diagnostics = (s.repl h).after.diagnostics ∨
            s.diagnostics.AcceptsAll ∧ t.diagnostics.AcceptsAll →
          (u.repl h).journal.diagnostics
              = (s.repl h).journal.diagnostics ++ (t.repl h).journal.diagnostics ∧
            ∃ before, (s.repl h).journal.deeds = before ++ [.logged .endOfInput] ∧
              (u.repl h).journal.deeds = before ++ (t.repl h).journal.deeds)) ∧
    ((∃ l ∈ lines a, (words l).head? = some (utf8 "exit")) →
      SameDeeds (s.repl h) (u.repl h) ∧ (u.repl h).journal.reads = (s.repl h).journal.reads) := by
  have hanswers := hu.answers
  rw [lines_append ha, List.map_append] at hanswers
  refine ⟨fun hexit t ht hts => ?_, fun hexit => ?_⟩
  · obtain ⟨hn, hend⟩ := hs.firstStop hexit
    have hc := Continues.of_answers hs.answers ht.answers hanswers
    rw [List.length_map] at hc
    have hhost : u.host = s.host := congrArg Surroundings.host hus
    refine ⟨composes_of_continues h hs.running ht.running hu.running hhost hts hn hend hc,
      fun hsink => ?_⟩
    obtain ⟨before, hfirst, hboth⟩ :=
      deeds_of_continues h hs.running ht.running hu.running hus hts hsink hn hend hc
    refine ⟨?_, before, hfirst, hboth⟩
    rw [← Journal.diagnostics_deeds, hboth, Journal.diagnostics_append,
      Journal.diagnostics_deeds, ← Journal.diagnostics_deeds (s.repl h).journal, hfirst,
      Journal.diagnostics_append]
    simp [Journal.diagnostics]
  · have hsame : SameResults s.source u.source := by
      refine LineReader.sameResults_of_answers_append hs.answers hanswers ?_
      obtain ⟨l, hl, hwords⟩ := hexit
      rw [← tokenize_eq_words] at hwords
      exact ⟨.line l, List.mem_map_of_mem hl, hwords⟩
    obtain ⟨n, hn, _⟩ := exists_repl_eq h hs.running
    have hn' := hsame.firstStop hn
    have hreads := hsame.results_eq hn.2
    have hbefore : results u.source n = results s.source n := by
      rw [LineReader.results_succ_eq_append, LineReader.results_succ_eq_append] at hreads
      exact (List.append_inj' hreads rfl).1.symm
    refine ⟨?_, ?_⟩
    · exact sameDeeds_of_commands h hs.running hu.running hus hn hn'
        (congrArg ReadResult.stop? (hsame n hn.2).symm) (congrArg commandsOf hbefore)
    · rw [reads_repl h hs.running hn, reads_repl h hu.running hn', hreads]

/-- A refused command and a blank line, and behind them a script with an `exit` in it; and the other
way round. -/
theorem repl_of_joined_scripts_of_exit :
    let front := utf8 "cd

ls -l
"
    let back := utf8 "cd /tmp
exit
ls
"
    let session (script : Bytes) (capacity : Nat) : Session Unit StreamSource :=
      { host := (), diagnostics := .unlimited
        source := { supply := { script := [.bytes script], capacity := capacity }
                    prompts := .unlimited } }
    RunsOver (session front 3) front ∧ RunsOver (session back 5) back ∧
      Composes ((session front 3).repl Host.refusing) ((session back 5).repl Host.refusing)
        ((session (front ++ back) 1).repl Host.refusing) ∧
      SameDeeds ((session back 5).repl Host.refusing)
        ((session (back ++ front) 2).repl Host.refusing) := by
  intro front back session
  have hsession : ∀ script capacity, script ≠ [] → 0 < capacity →
      RunsOver (session script capacity) script := by
    intro script capacity hne hc
    exact
      { running := rfl
        delivers :=
          { capacity_pos := hc
            undisturbed := by simp [session, Supply.Undisturbed, Delivery.isUndisturbed, hne]
            content := by simp [session, Supply.content, Delivery.content] } }
  have hfront := hsession front 3 (by decide) (by decide)
  have hback := hsession back 5 (by decide) (by decide)
  have hplain := repl_of_joined_scripts Host.refusing (Or.inr (by decide)) hfront
    (hsession (front ++ back) 1 (by decide) (by decide)) rfl
  have hexit := repl_of_joined_scripts Host.refusing (Or.inr (by decide)) hback
    (hsession (back ++ front) 2 (by decide) (by decide)) rfl
  exact ⟨hfront, hback, (hplain.1 (by decide) _ hback rfl).1, (hexit.2 (by decide)).1⟩

end Session

end LineShell
