import LineShell.Machine
import LineShell.Proofs.Agenda
import LineShell.Proofs.Lines
import Mathlib.Data.List.GetD

/-!
# Commands that are refused

A command can be refused: `cd` without an argument is, and so is a change of directory or the start
of a program that the operating system does not grant. The shell tells this in one line and goes on
as if the command had never been there (`repl_without_refused_line`). That the operating system
stays as it was is its own doing; that the loop, the commands behind and their diagnostics do not
notice is the shell's.
-/

namespace LineShell

variable {σ ι κ : Type}

/-! ## Operating systems -/

/-- What the operating system refuses it has not begun to do. -/
structure Host.RefusesCleanly (h : Host σ) : Prop where
  changeDirectory : ∀ path s f,
    (h.changeDirectory path s).1 = .error f → (h.changeDirectory path s).2 = s
  spawn : ∀ program args s f,
    (h.spawn program args s).1 = .error f → (h.spawn program args s).2 = s

/-- Whether a path or a word in a request holds a zero byte. -/
def Request.HoldsZeroByte : Request → Prop
  | changeDirectory path => 0 ∈ path
  | spawn program args => ∃ word ∈ program :: args, 0 ∈ word
  | wait _ => False

/-- Requests with zero bytes are turned down. -/
structure Host.RejectsZeroBytes (h : Host σ) : Prop where
  changeDirectory : ∀ path s, (Request.changeDirectory path).HoldsZeroByte →
    (h.changeDirectory path s).1 = .error .zeroInPath
  spawn : ∀ program args s, (Request.spawn program args).HoldsZeroByte →
    (h.spawn program args s).1 = .error .zeroInWord

theorem Machine.refusesCleanly : Machine.host.RefusesCleanly where
  changeDirectory path m f hf := by
    simp only [host, changeDirectory] at hf ⊢
    split
    · rfl
    · next hzero =>
      rw [if_neg hzero] at hf
      split
      · rfl
      · next n hn =>
        rw [hn] at hf
        by_cases hdirectory : (m.files.directory? n).isSome
        · simp [hdirectory] at hf
        · simp [hdirectory]
  spawn program args m f hf := by
    simp only [host, spawn] at hf ⊢
    split
    · rfl
    · next hzero =>
      rw [if_neg hzero] at hf
      split
      · rfl
      · next image himage =>
        rw [himage] at hf
        cases hf

theorem Machine.rejectsZeroBytes : Machine.host.RejectsZeroBytes where
  changeDirectory path m hpath := by
    have hzero : path.contains 0 = true := List.contains_iff_mem.2 hpath
    simp only [host, changeDirectory, hzero, if_true]
  spawn program args m hword := by
    have hzero : (program :: args).any (·.contains 0) = true := by
      obtain ⟨word, hmem, hword⟩ := hword
      exact List.any_eq_true.2 ⟨word, hmem, List.contains_iff_mem.2 hword⟩
    simp only [host, spawn, hzero, if_true]

/-! ## Refused commands -/

/-- The words of a line are refused with a message, in a state of the operating system. -/
inductive Refused (h : Host σ) (s : σ) : List Bytes → Bytes → Prop where
  | alone : Refused h s [utf8 "cd"] (BuiltinError.missingArgument (utf8 "cd")).message
  | directory {target : Bytes} {rest : List Bytes} {f : Fault}
    (hf : (h.changeDirectory target s).1 = .error f) :
    Refused h s (utf8 "cd" :: target :: rest)
      (BuiltinError.changeDirectory (utf8 "cd") target f).message
  | program {name : Bytes} {args : List Bytes} {f : Fault}
    (hname : Builtin.lookup name = none) (hf : (h.spawn name args s).1 = .error f) :
    Refused h s (name :: args) (LaunchError.spawn name f).message

namespace Refused

variable {h : Host σ} {s : σ} {ws : List Bytes} {message : Bytes}

theorem ne_nil (hr : Refused h s ws message) : ws ≠ [] := by
  cases hr <;> simp

theorem head?_ne_exit (hr : Refused h s ws message) : ws.head? ≠ some (utf8 "exit") := by
  have hcd : utf8 "cd" ≠ utf8 "exit" := by decide
  cases hr with
  | alone => simpa using hcd
  | directory hf => simpa using hcd
  | program hname hf =>
    have hexit := ne_of_lookup_eq_none hname .exit
    exact fun heq => hexit (Option.some.inj heq)

theorem of_zeroByte (hh : h.RejectsZeroBytes) {request : Request} (ho : orderOf ws = some request)
    (hexit : ws.head? ≠ some (utf8 "exit")) (hzero : request.HoldsZeroByte) :
    ∃ message, Refused h s ws message := by
  rcases words_cases ws with rfl | ⟨args, rfl⟩ | ⟨args, rfl⟩ | ⟨name, args, rfl, hname⟩
  · cases ho
  · cases args with
    | nil => exact ⟨_, .alone⟩
    | cons target rest =>
      cases ho
      exact ⟨_, .directory (hh.changeDirectory target s hzero)⟩
  · exact absurd rfl hexit
  · have hne : name ≠ utf8 "cd" := ne_of_lookup_eq_none hname .cd
    rw [orderOf, if_neg hne] at ho
    cases ho
    exact ⟨_, .program hname (hh.spawn name args s hzero)⟩

/-- A refused command makes its request, if it has one, and nothing comes of it. -/
theorem exists_effect (hr : Refused h s ws message) (hh : h.RefusesCleanly) :
    ∃ j pieces, Effect.ofWords h ws s = ⟨.continue, j, some pieces, s⟩ ∧
      pieces.flatten = message ∧ j.requests = (orderOf ws).toList ∧ j.diagnosed = [] ∧
      j.diagnostics = [] := by
  cases hr with
  | alone => exact ⟨_, _, Effect.Kind.cdAlone.eq, rfl, rfl, rfl, rfl⟩
  | @directory target rest f hf =>
    have hsame := hh.changeDirectory target s f hf
    rcases hanswer : h.changeDirectory target s with ⟨answer, s'⟩
    rw [hanswer] at hf hsame
    cases hf
    cases hsame
    exact ⟨_, _, (Effect.Kind.cdRefused hanswer).eq, rfl, rfl, rfl, rfl⟩
  | @program name args f hname hf =>
    have hsame := hh.spawn name args s f hf
    rcases hanswer : h.spawn name args s with ⟨answer, s'⟩
    rw [hanswer] at hf hsame
    cases hf
    cases hsame
    have hne : name ≠ utf8 "cd" := ne_of_lookup_eq_none hname .cd
    refine ⟨_, _, (Effect.Kind.programRefused hname hanswer).eq, rfl, ?_, rfl, rfl⟩
    simp [orderOf, hne, Journal.requests]

end Refused

/-! ## Readers without one of the results -/

namespace LineReader

variable [LineReader ι] [LineReader κ]

/-- The second reader gives the results of the first one without the one that has the number `k`. -/
structure LeavesOut (s : ι) (t : κ) (k : Nat) : Prop where
  before : ∀ n < k, result t n = result s n
  behind : ∀ n, k ≤ n → result t n = result s (n + 1)

variable {s : ι} {t : κ} {k : Nat}

theorem LeavesOut.of_answers {l l' : List ReadResult} {r : ReadResult}
    (hs : Answers s (l ++ r :: l')) (ht : Answers t (l ++ l')) : LeavesOut s t l.length where
  before n hn := by
    rw [hs n, ht n, List.getD_append _ _ _ _ hn, List.getD_append _ _ _ _ hn]
  behind n hn := by
    have hsucc : n + 1 - l.length = (n - l.length) + 1 := by omega
    rw [hs (n + 1), ht n, List.getD_append_right _ _ _ _ hn,
      List.getD_append_right _ _ _ _ (Nat.le_succ_of_le hn), hsucc, List.getD_cons_succ]

theorem LeavesOut.results_add (h : LeavesOut s t k) (j : Nat) :
    results s (k + 1 + j) = results s k ++ result s k :: results (afterReads s (k + 1)) j ∧
      results t (k + j) = results s k ++ results (afterReads s (k + 1)) j := by
  have hfront : results t k = results s k := by
    rw [results_eq_map_range, results_eq_map_range]
    exact List.map_congr_left fun m hm => h.before m (List.mem_range.1 hm)
  have hrest : results (afterReads t k) j = results (afterReads s (k + 1)) j := by
    rw [results_eq_map_range, results_eq_map_range]
    refine List.map_congr_left fun m _ => ?_
    rw [result_afterReads, result_afterReads, h.behind (k + m) (Nat.le_add_right k m)]
    exact congrArg (result s) (by omega)
  constructor
  · rw [LineReader.results_add, results_succ_eq_append, List.append_assoc, List.singleton_append]
  · rw [LineReader.results_add, hfront, hrest]

/-- The commands that are read on both sides: a line that is not blank is one of them. -/
theorem LeavesOut.exists_commandsOf_eq (h : LeavesOut s t k) {b : Bytes} (hb : result s k = .line b)
    (hne : tokenize b ≠ []) (j : Nat) :
    ∃ wss, commandsOf (results s (k + 1 + j)) = commandsOf (results s k) ++ tokenize b :: wss ∧
      commandsOf (results t (k + j)) = commandsOf (results s k) ++ wss := by
  obtain ⟨hs, ht⟩ := h.results_add j
  refine ⟨commandsOf (results (afterReads s (k + 1)) j), ?_, ?_⟩
  · rw [hs, hb, commandsOf_append, commandsOf_cons_line, if_neg hne]
  · rw [ht, commandsOf_append]

/-- Without a result that does not stop the loop, it stops one read earlier. -/
theorem LeavesOut.firstStop (h : LeavesOut s t k) {n : Nat} (hn : FirstStop s n)
    (hk : ∀ m ≤ k, ¬ (result s m).Stops) :
    ∃ j, n = k + 1 + j ∧ FirstStop t (k + j) ∧ result t (k + j) = result s n := by
  have hlt : k < n := by
    refine Nat.lt_of_not_le fun hle => ?_
    exact hk n hle hn.1
  obtain ⟨j, rfl⟩ := Nat.exists_eq_add_of_le (Nat.succ_le_of_lt hlt)
  have hlast : result t (k + j) = result s (k + 1 + j) := by
    rw [h.behind (k + j) (Nat.le_add_right k j)]
    exact congrArg (result s) (by omega)
  refine ⟨j, rfl, ⟨?_, fun m hm => ?_⟩, hlast⟩
  · rw [hlast]
    exact hn.1
  · by_cases hmk : m < k
    · rw [h.before m hmk]
      exact hk m (Nat.le_of_lt hmk)
    · rw [h.behind m (Nat.le_of_not_lt hmk)]
      exact hn.2 (m + 1) (by omega)

end LineReader

/-- A script without one of its lines. -/
theorem StreamSource.leavesOut_of_lines {s t : StreamSource} (hs : 0 < s.supply.capacity)
    (ht : 0 < t.supply.capacity) (hsupply : s.supply.Undisturbed) (hsupply' : t.supply.Undisturbed)
    {ls ls' : List Bytes} {b : Bytes} (hlines : lines s.supply.content = ls ++ b :: ls')
    (hcontent : t.supply.content = (ls ++ ls').flatten) :
    LineReader.LeavesOut s t ls.length ∧ LineReader.result s ls.length = .line b := by
  have hare : AreLines (ls ++ ls') := by
    have hall := areLines_lines s.supply.content
    rw [hlines] at hall
    exact hall.delete
  have hanswers := StreamSource.answers_lines hs hsupply
  have hanswers' := StreamSource.answers_lines ht hsupply'
  rw [hlines, List.map_append, List.map_cons] at hanswers
  rw [hcontent, hare.lines_flatten, List.map_append] at hanswers'
  have hout := LineReader.LeavesOut.of_answers hanswers hanswers'
  have hline := hanswers ls.length
  rw [List.length_map] at hout
  refine ⟨hout, ?_⟩
  rw [hline, List.getD_append_right _ _ _ _ (by simp)]
  simp

/-! ## Runs without one of the commands -/

namespace Session

open LineReader (result results LeavesOut)

/-- The second run does what the first one does, but for a request, if there is one, and the line of
a diagnostic, both of which come behind what is seen in the journal `before`. -/
structure DoesWithout (act : Act (Except ShellError Unit) (Session σ ι))
    (act' : Act (Except ShellError Unit) (Session σ κ)) (before : Journal)
    (request : Option Request) (line : Bytes) : Prop where
  requests : ∃ rest, act.journal.requests = before.requests ++ request.toList ++ rest ∧
    act'.journal.requests = before.requests ++ rest
  diagnosed : ∃ rest, act.journal.diagnosed = before.diagnosed ++ line :: rest ∧
    act'.journal.diagnosed = before.diagnosed ++ rest
  /-- The bytes that are accepted. -/
  diagnostics : ∃ rest, act.journal.diagnostics = before.diagnostics ++ line ++ rest ∧
    act'.journal.diagnostics = before.diagnostics ++ rest
  host : act'.after.host = act.after.host
  state : act'.after.state = act.after.state
  result : act'.result = act.result

variable {h : Host σ}

/-- A projection that shows deeds only, of two runs one of which has some more of them. -/
theorem exists_view_eq {α : Type} {view : Journal → List α} (hdeeds : ∀ j, view j.deeds = view j)
    (happend : ∀ j k, view (j ++ k) = view j ++ view k)
    {j j' before front told rest closing : Journal}
    (hj : j.deeds = (front ++ told ++ rest).deeds ++ closing)
    (hj' : j'.deeds = (front ++ rest).deeds ++ closing) (hbefore : before.deeds = front.deeds) :
    ∃ tail, view j = view before ++ view told ++ tail ∧ view j' = view before ++ tail := by
  have hfront : view front = view before := by rw [← hdeeds front, ← hbefore, hdeeds]
  refine ⟨view rest ++ view closing, ?_, ?_⟩
  · rw [← hdeeds j, hj, happend, hdeeds, happend, happend, hfront, List.append_assoc]
  · rw [← hdeeds j', hj', happend, hdeeds, happend, hfront, List.append_assoc]

/-- The commands of a run, with and without a refused one. -/
theorem exists_carryOut_eq (hh : h.RefusesCleanly) (wss wss' : List (List Bytes))
    {ws : List Bytes} {message : Bytes} {a b : Surroundings σ} (ha : a.diagnostics.AcceptsAll)
    (hb : b.diagnostics.AcceptsAll)
    (hab : b.host = a.host) (hr : Refused h (carryOut h wss a).2.host ws message) :
    ∃ told rest,
      (carryOut h (wss ++ ws :: wss') a).1 = (carryOut h wss a).1 ++ told ++ rest ∧
      (carryOut h (wss ++ wss') b).1 = (carryOut h wss a).1 ++ rest ∧
      (carryOut h (wss ++ wss') b).2.host = (carryOut h (wss ++ ws :: wss') a).2.host ∧
      told.requests = (orderOf ws).toList ∧ told.diagnosed = [diagnosticLine message] ∧
      told.diagnostics = diagnosticLine message := by
  obtain ⟨hbefore, hhost, _⟩ := carryOut_of_acceptsAll h wss ha
  obtain ⟨hwith, hhostWith, _⟩ := carryOut_of_acceptsAll h (wss ++ ws :: wss') ha
  obtain ⟨hwithout, hhostWithout, _⟩ := carryOut_of_acceptsAll h (wss ++ wss') hb
  rw [hhost] at hr
  obtain ⟨j, pieces, heffect, rfl, hrequests, hdiagnosed, hdiagnostics⟩ := hr.exists_effect hh
  refine ⟨j ++ [.diagnosed (diagnosticLine pieces.flatten)
      (diagnosticLine pieces.flatten).length],
    (Effect.ofCommands h wss' (Effect.ofCommands h wss a.host).2).1, ?_, ?_, ?_, ?_, ?_, ?_⟩
  · rw [hwith, hbefore, Effect.ofCommands_append]
    simp [Effect.ofCommands, heffect, Effect.fullJournal]
  · rw [hwithout, hbefore, Effect.ofCommands_append, hab]
  · rw [hhostWith, hhostWithout, Effect.ofCommands_append, Effect.ofCommands_append, hab]
    simp [Effect.ofCommands, heffect]
  · simpa [Journal.requests] using hrequests
  · simp [hdiagnosed]
  · rw [Journal.diagnostics_append, hdiagnostics]
    simp [Journal.diagnostics]

theorem doesWithout_of_refused [LineSource ι] [LineSource κ] (hh : h.RefusesCleanly)
    {s : Session σ ι} {t : Session σ κ} (hs : s.state = .running) (ht : t.state = .running)
    (hhost : t.host = s.host) (hsink : s.diagnostics.AcceptsAll) (hsink' : t.diagnostics.AcceptsAll)
    {k : Nat} {b message : Bytes} (hout : LeavesOut s.source t.source k)
    (hk : ∀ m < k, ¬ (result s.source m).Stops) (hb : result s.source k = .line b)
    (hr : Refused h (steps h k s).after.host (tokenize b) message) :
    DoesWithout (s.repl h) (t.repl h) (steps h k s).journal (orderOf (tokenize b))
      (diagnosticLine message) := by
  have hkb : ∀ m ≤ k, ¬ (result s.source m).Stops := by
    intro m hm
    rcases Nat.lt_or_eq_of_le hm with hlt | rfl
    · exact hk m hlt
    · rw [hb]
      exact hr.head?_ne_exit
  -- both runs come to the same stop, the second one a read earlier
  obtain ⟨n, hn, _⟩ := exists_repl_eq h hs
  obtain ⟨j, rfl, hm, hlast⟩ := hout.firstStop hn hkb
  obtain ⟨stop, hstop⟩ := (ReadResult.stops_iff_exists_stop _).1 hn.1
  have hstop' : (result t.source (k + j)).stop? = some stop := by rwa [hlast]
  -- and their commands differ in the refused one
  obtain ⟨wss, hcommands, hcommands'⟩ := hout.exists_commandsOf_eq hb hr.ne_nil j
  obtain ⟨hbefore, hreached⟩ := deeds_steps h hs k hk
  rw [hreached] at hr
  obtain ⟨told, rest, hwith, hwithout, hsame, htold⟩ :=
    exists_carryOut_eq hh _ wss hsink hsink' hhost hr
  obtain ⟨hrequests, hdiagnosed, hdiagnostics⟩ := htold
  obtain ⟨hdeeds, hafter, hstate, hresult⟩ := repl_eq_carryOut h hs hn hstop rfl
  obtain ⟨hdeeds', hafter', hstate', hresult'⟩ := repl_eq_carryOut h ht hm hstop' rfl
  rw [hcommands] at hdeeds hafter
  rw [hcommands'] at hdeeds' hafter'
  have hclose := stop.close_of_acceptsAll
    (carryOut_of_acceptsAll h (commandsOf (LineReader.results s.source k) ++ wss) hsink').2.2
    (carryOut_of_acceptsAll h (commandsOf (LineReader.results s.source k) ++ tokenize b :: wss)
      hsink).2.2
  rw [hwith] at hdeeds
  rw [hwithout, hclose] at hdeeds'
  refine { requests := ?_, diagnosed := ?_, diagnostics := ?_, host := ?_, state := ?_,
           result := ?_ }
  · -- requests
    rw [← hrequests]
    exact exists_view_eq Journal.requests_deeds Journal.requests_append hdeeds hdeeds' hbefore
  · -- diagnosed
    have hview :=
      exists_view_eq Journal.diagnosed_deeds Journal.diagnosed_append hdeeds hdeeds' hbefore
    rw [hdiagnosed] at hview
    simpa using hview
  · -- diagnostics
    rw [← hdiagnostics]
    exact exists_view_eq Journal.diagnostics_deeds Journal.diagnostics_append hdeeds hdeeds' hbefore
  · -- host
    have hhosts := congrArg Surroundings.host hafter
    have hhosts' := congrArg Surroundings.host hafter'
    rw [Stop.host_close] at hhosts hhosts'
    rw [hhosts', hhosts, hsame]
  · -- state
    rw [hstate', hstate]
  · -- result
    rw [hresult', hresult]

/-- **A refused command is as good as none.** Let the operating system leave what it refuses undone,
and let the diagnostics be accepted. Take two runs whose sources give the same but for a line of the
first one that is carried out and refused. In the end the operating system, the state and the result
are the same, and so are the requests and the diagnostics on the way but for the request of that
line and the one line that tells of it. This goes for every line with a zero byte where none may be,
and for a script out of which the line is deleted. -/
theorem repl_without_refused_line [LineSource ι] [LineSource κ] (hh : h.RefusesCleanly) :
    (∀ {s : Session σ ι} {t : Session σ κ}, s.state = .running → t.state = .running →
      t.host = s.host → s.diagnostics.AcceptsAll → t.diagnostics.AcceptsAll →
      ∀ {k : Nat} {b message : Bytes}, LeavesOut s.source t.source k →
        (∀ m < k, ¬ (result s.source m).Stops) → result s.source k = .line b →
        Refused h (steps h k s).after.host (tokenize b) message →
        DoesWithout (s.repl h) (t.repl h) (steps h k s).journal (orderOf (tokenize b))
          (diagnosticLine message)) ∧
    (h.RejectsZeroBytes → ∀ {ws : List Bytes} {request : Request} (x : σ),
      orderOf ws = some request → ws.head? ≠ some (utf8 "exit") → request.HoldsZeroByte →
        ∃ message, Refused h x ws message) ∧
    ∀ {x y : StreamSource}, 0 < x.supply.capacity → 0 < y.supply.capacity →
      x.supply.Undisturbed → y.supply.Undisturbed →
      ∀ {ls ls' : List Bytes} {b : Bytes}, lines x.supply.content = ls ++ b :: ls' →
        y.supply.content = (ls ++ ls').flatten →
        LeavesOut x y ls.length ∧ result x ls.length = .line b := by
  refine ⟨?_, fun hzero ws request x => Refused.of_zeroByte hzero, ?_⟩
  · intro s t hs ht hhost hsink hsink' k b message hout hk hb hr
    exact doesWithout_of_refused hh hs ht hhost hsink hsink' hout hk hb hr
  · intro x y hx hy hsupply hsupply' ls ls' b hlines hcontent
    exact StreamSource.leavesOut_of_lines hx hy hsupply hsupply' hlines hcontent

/-- On the machine, a script whose second line names a directory with a zero byte in it. -/
theorem repl_without_refused_line_of_zeroByte :
    let m : Machine := { files := {}, here := 0, environment := [] }
    let s : Session Machine StreamSource :=
      { host := m, diagnostics := .unlimited
        source := { supply := { script := [.bytes (utf8 "cd\ncd a\x00b\nls -l")] }
                    prompts := .unlimited } }
    let t : Session Machine StreamSource :=
      { host := m, diagnostics := .unlimited
        source := { supply := { script := [.bytes (utf8 "cd\nls"), .bytes (utf8 " -l")]
                                capacity := 2 }
                    prompts := .unlimited } }
    LeavesOut s.source t.source 1 ∧
      ∃ message, DoesWithout (s.repl Machine.host) (t.repl Machine.host)
        (steps Machine.host 1 s).journal (some (.changeDirectory (utf8 "a\x00b")))
        (diagnosticLine message) := by
  intro m s t
  have hpath :
      orderOf (tokenize (utf8 "cd a\x00b\n")) = some (.changeDirectory (utf8 "a\x00b")) := by
    decide
  obtain ⟨hgeneral, hzero, hscript⟩ :=
    repl_without_refused_line (ι := StreamSource) (κ := StreamSource) Machine.refusesCleanly
  have hlines : lines s.source.supply.content
      = [utf8 "cd\n"] ++ utf8 "cd a\x00b\n" :: [utf8 "ls -l"] := by decide
  have hcontent : t.source.supply.content = ([utf8 "cd\n"] ++ [utf8 "ls -l"]).flatten := by decide
  obtain ⟨hout, hline⟩ :=
    hscript (by decide) (by decide) (by decide) (by decide) hlines hcontent
  obtain ⟨message, hr⟩ := hzero Machine.rejectsZeroBytes (steps Machine.host 1 s).after.host hpath
    (by decide) (by decide : 0 ∈ utf8 "a\x00b")
  have hfirst : ∀ n < 1, ¬ (result s.source n).Stops := by
    intro n hn
    obtain rfl : n = 0 := by omega
    have hzeroth := hout.before 0 (by decide)
    rw [← hzeroth, StreamSource.answers_lines (s := t.source) (by decide) (by decide) 0]
    decide
  refine ⟨hout, message, ?_⟩
  have hdoes := hgeneral (s := s) (t := t) rfl rfl rfl Sink.acceptsAll_unlimited
    Sink.acceptsAll_unlimited hout hfirst hline hr
  rwa [hpath] at hdoes

end Session

end LineShell
