import LineShell.Proofs.Lines
import LineShell.Proofs.Loop

/-!
# What a script orders

From the bytes of a script to the requests that the operating system hears: the script is cut into
lines and the lines into words, and the words of every line before the first `exit` line order a
change of directory, the start of a program or nothing. What the operating system answers, how its
programs end and what becomes of prompts and diagnostics makes no difference.
-/

namespace LineShell

/-- What lines order. The first line whose first word is `exit` and all lines behind it order
nothing. -/
def lineOrders (ls : List Bytes) : List Request :=
  ((ls.map words).takeWhile fun ws => ws.head? ≠ some (utf8 "exit")).filterMap orderOf

/-- What a script orders. -/
def scriptOrders (input : Bytes) : List Request :=
  lineOrders (lines input)

theorem lineOrders_cons_of_exit {b : Bytes} (hb : (words b).head? = some (utf8 "exit"))
    (ls : List Bytes) : lineOrders (b :: ls) = [] := by
  simp [lineOrders, hb]

theorem lineOrders_cons_of_ne_exit {b : Bytes} (hb : (words b).head? ≠ some (utf8 "exit"))
    (ls : List Bytes) : lineOrders (b :: ls) = (orderOf (words b)).toList ++ lineOrders ls := by
  cases ho : orderOf (words b) <;> simp [lineOrders, hb, ho]

namespace LineReader

variable {ι : Type} [LineReader ι]

/-- On a reader that answers with lines, the reads up to the first stop order what the lines
order. -/
theorem orders_results {s : ι} {ls : List Bytes} (hs : Answers s (ls.map .line)) {n : Nat}
    (hn : FirstStop s n) : (results s (n + 1)).flatMap ReadResult.orders = lineOrders ls := by
  -- every read before the first stop takes one line off the list
  induction n generalizing s ls with
  | zero =>
    have hstop := firstStop_zero.1 hn
    have hnone : (result s 0).orders = [] := if_pos hstop
    cases ls with
    | nil => simp [results, hnone, lineOrders]
    | cons b ls =>
      have hb : result s 0 = .line b := hs 0
      rw [hb] at hstop
      have hexit : (words b).head? = some (utf8 "exit") := by
        rw [← tokenize_eq_words]
        exact hstop
      rw [lineOrders_cons_of_exit hexit]
      simp [results, hnone]
  | succ n ih =>
    obtain ⟨h0, hn⟩ := firstStop_succ.1 hn
    cases ls with
    | nil =>
      have hend : result s 0 = .endOfInput := hs 0
      rw [hend] at h0
      exact absurd trivial h0
    | cons b ls =>
      have hb : result s 0 = .line b := hs 0
      have hrest := ih hs.next hn
      have horders : (result s 0).orders = (orderOf (words b)).toList := by
        rw [ReadResult.orders, if_neg h0, hb, ← tokenize_eq_words]
        rfl
      rw [hb] at h0
      have hexit : (words b).head? ≠ some (utf8 "exit") := by
        rw [← tokenize_eq_words]
        exact h0
      rw [lineOrders_cons_of_ne_exit hexit, ← hrest, ← horders]
      rfl

end LineReader

namespace Session

variable {σ : Type}

/-- What is ordered is all that the host hears of the loop. -/
theorem host_repl {ι : Type} [LineSource ι] (h : Host σ) (s : Session σ ι) :
    (s.repl h).after.host = (s.repl h).journal.orders.foldl h.serve s.host := by
  cases hs : s.state with
  | stopped d =>
    rw [← completes_iff_eq_repl.1 ((completes_iff_of_stopped h hs).2 rfl)]
    rfl
  | running =>
    obtain ⟨n, _, hrepl⟩ := exists_repl_eq h hs
    rw [hrepl]
    exact host_steps h (n + 1) s

/-- **A script orders what its lines say.** On any operating system, with any sinks for prompts and
diagnostics, the requests of a running loop over a stream are those that the bytes of its supply
spell out, in order and byte for byte, however these bytes are cut into deliveries; and the
operating system is left as these requests leave it. -/
theorem repl_orders_script (h : Host σ) {s : Session σ StreamSource} (hs : s.state = .running)
    (hc : 0 < s.source.supply.capacity) (hsupply : s.source.supply.Undisturbed) :
    (s.repl h).journal.orders = scriptOrders s.source.supply.content ∧
      (s.repl h).after.host = (scriptOrders s.source.supply.content).foldl h.serve s.host := by
  have horders : (s.repl h).journal.orders = scriptOrders s.source.supply.content := by
    obtain ⟨n, hn, hrepl⟩ := exists_repl_eq h hs
    rw [hrepl, orders_steps h hs n hn.2]
    exact LineReader.orders_results (StreamSource.answers_lines hc hsupply) hn
  refine ⟨horders, ?_⟩
  rw [host_repl, horders]

/-- A script in three deliveries, with a blank line, spare words and lines behind `exit`. -/
theorem repl_orders_script_of_pieces :
    let supply : Supply :=
      { script := [.bytes (utf8 "cd /tmp x\n \t\nc"), .fault .interrupted,
          .bytes (utf8 "d\nls  -l\r\n exit 3\nl"), .bytes (utf8 "s")]
        capacity := 4 }
    let s : Session Unit StreamSource :=
      { host := (), diagnostics := .unlimited
        source := { supply := supply, prompts := .unlimited } }
    s.state = .running ∧ 0 < supply.capacity ∧ supply.Undisturbed ∧
      (s.repl Host.refusing).journal.orders
        = [.changeDirectory (utf8 "/tmp"), .spawn (utf8 "ls") [utf8 "-l"]] := by
  intro supply s
  have hsupply : supply.Undisturbed := by decide
  refine ⟨rfl, by decide, hsupply, ?_⟩
  rw [(repl_orders_script Host.refusing (s := s) rfl (by decide) hsupply).1]
  decide

end Session

end LineShell
