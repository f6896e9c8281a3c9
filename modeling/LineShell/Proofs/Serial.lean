import LineShell.Input.Stream
import LineShell.Proofs.Effects
import LineShell.Proofs.Loop

/-!
# One command at a time

The moves of a run are its prompts, its reads, its requests and what it hears of its children. They
come in blocks, one for each read: the prompt, the read, and the one request of the line, if it
makes one, which is over when the child that it may have started has ended (`Blocks`). So there is
never more than one child that has not been seen to end, and none when a line is asked for or a
request is made (`commands_are_serial`).
-/

namespace LineShell

variable {σ ι : Type}

/-! ## Moves -/

/-- Whether an entry is a prompt, a read, a request or news of a child. -/
def Entry.isMove : Entry → Bool
  | .prompted .. | .read _ | .asked _ => true
  | .logged (.childSpawned ..) | .logged (.childWaited ..) => true
  | _ => false

namespace Journal

/-- The moves of a journal, in order. -/
def moves (j : Journal) : Journal :=
  j.filter Entry.isMove

@[simp] theorem moves_nil : moves [] = [] := rfl

@[simp] theorem moves_append (j k : Journal) : moves (j ++ k) = moves j ++ moves k := by
  simp [moves]

@[simp] theorem moves_cons (e : Entry) (j : Journal) :
    moves (e :: j) = if e.isMove then e :: moves j else moves j :=
  List.filter_cons

/-- Of a reader's moves all are prompts. -/
theorem exists_prompted_of_mem_moves {j : Journal} (hj : ∀ e ∈ j, e.ofReading) {e : Entry}
    (he : e ∈ j.moves) : ∃ text kept, e = .prompted text kept := by
  obtain ⟨hmem, hmove⟩ := List.mem_filter.1 he
  have hkind := hj e hmem
  cases e with
  | prompted text kept => exact ⟨text, kept, rfl⟩
  | logged event => cases event <;> simp [Entry.ofReading, Entry.isMove] at hkind hmove
  | _ => simp [Entry.ofReading, Entry.isMove] at hkind hmove

end Journal

theorem moves_report (message : List Bytes) (sink : Sink) : (report message sink).1.moves = [] := by
  refine List.filter_eq_nil_iff.2 fun e he => ?_
  simp only [report, List.mem_cons, Option.mem_toList, Option.map_eq_some_iff] at he
  rcases he with rfl | ⟨f, _, rfl⟩
  · exact Bool.false_ne_true
  · exact Bool.false_ne_true

theorem moves_tell (message : Option (List Bytes)) (sink : Sink) :
    (tell message sink).1.moves = [] := by
  cases message with
  | none => rfl
  | some message => exact moves_report message sink

theorem moves_printed (printed : List (Stream × Bytes)) :
    Journal.moves (printed.map fun (stream, b) => .printed stream b) = [] := by
  refine List.filter_eq_nil_iff.2 fun e he => ?_
  obtain ⟨p, _, rfl⟩ := List.mem_map.1 he
  exact Bool.false_ne_true

theorem moves_childJournal (program : Bytes) (args : List Bytes) (pid : Nat)
    (printed : List (Stream × Bytes)) (made : List WaitResult) :
    (childJournal program args pid printed made).moves
      = .asked (.spawn program args) :: .logged (.childSpawned pid program)
          :: made.flatMap (WaitResult.entries pid) := by
  have hmade : Journal.moves (made.flatMap (WaitResult.entries pid))
      = made.flatMap (WaitResult.entries pid) := by
    refine List.filter_eq_self.2 fun e he => ?_
    obtain ⟨r, _, he⟩ := List.mem_flatMap.1 he
    cases r <;> simp [WaitResult.entries] at he
    · rcases he with rfl | rfl <;> rfl
    · rw [he]
      rfl
    · rw [he]
      rfl
  rw [childJournal, Journal.moves_append, Journal.moves_append, moves_printed, hmade]
  rfl

/-! ## Blocks -/

/-- Every child that is started is seen to end, and no wait on it fails. Before that it may be
stopped and go on as often as it likes. -/
def Host.ChildrenEnd (h : Host σ) : Prop :=
  ∀ program args s pid s', h.spawn program args s = (.ok pid, s') →
    ∃ made status, EndsWaiting (h.conduct pid s').1.waits made (.ok status)

/-- The moves of what a line orders, in a state of the operating system. -/
inductive Carried (h : Host σ) (x : σ) : List Request → Journal → Prop where
  /-- Nothing is ordered. -/
  | nothing : Carried h x [] []
  /-- A change of directory, granted or not, is one request. -/
  | directory {path : Bytes} :
    Carried h x [.changeDirectory path] [.asked (.changeDirectory path)]
  /-- So is the start of a program that is refused. -/
  | refused {program : Bytes} {args : List Bytes} {f : Fault} {x' : σ}
    (hspawn : h.spawn program args x = (.error f, x')) :
    Carried h x [.spawn program args] [.asked (.spawn program args)]
  /-- A child is waited for again and again. It is the last wait, and no other one, that brings its
  ending. -/
  | ran {program : Bytes} {args : List Bytes} {pid : Nat} {x' : σ} {before : List WaitResult}
    {n : Notice} {status : ChildStatus} (hspawn : h.spawn program args x = (.ok pid, x'))
    (hbefore : ∀ r ∈ before, r.Passes) (hn : n.ending = some status) :
    Carried h x [.spawn program args]
      (.asked (.spawn program args) :: .logged (.childSpawned pid program)
        :: (before ++ [WaitResult.notice n]).flatMap (WaitResult.entries pid))

/-- The moves that belong to successive reads: for each one the prompt, the read and what the line
orders. -/
inductive Blocks [LineReader ι] (h : Host σ) : σ → ι → List ReadResult → Journal → Prop where
  | nil {x : σ} {s : ι} : Blocks h x s [] []
  | block {x : σ} {s : ι} {command rest : Journal} {rs : List ReadResult}
    (hcommand : Carried h x (LineReader.result s 0).orders command)
    (hrest :
      Blocks h ((LineReader.result s 0).orders.foldl h.serve x) (LineReader.next s) rs rest) :
    Blocks h x s (LineReader.result s 0 :: rs)
      ((LineReader.readLine prompt s).journal.moves
        ++ .read (LineReader.result s 0) :: command ++ rest)

/-- A stream shows its prompt once. -/
theorem StreamSource.exists_moves_readLine (s : StreamSource) (text : Bytes) :
    ∃ kept, (LineReader.readLine text s).journal.moves = [.prompted text kept] := by
  have hlogged : ∀ fault : Option Fault,
      Journal.moves (fault.map fun f => Entry.logged (.promptFailed s.promptFailed f)).toList
        = [] := by
    intro fault
    cases fault <;> rfl
  refine ⟨(s.prompts.writeAll text).2.keptSince s.prompts, ?_⟩
  show Journal.moves (s.showPrompt text).1 = _
  simp only [showPrompt, Journal.moves_cons, hlogged]
  rfl

theorem Effect.carried_ofWords {h : Host σ} (hh : h.ChildrenEnd) {ws : List Bytes}
    (hexit : ws.head? ≠ some (utf8 "exit")) (x : σ) :
    Carried h x (orderOf ws).toList (Effect.ofWords h ws x).journal.moves := by
  have horder : ∀ {name : Bytes} (args : List Bytes), Builtin.lookup name = none →
      (orderOf (name :: args)).toList = [.spawn name args] := by
    intro name args hname
    have hne : name ≠ utf8 "cd" := ne_of_lookup_eq_none hname .cd
    simp [orderOf, hne]
  obtain ⟨effect, hkind⟩ := exists_kind h ws x
  rw [hkind.eq]
  cases hkind with
  | blank => exact .nothing
  | exit => exact absurd rfl hexit
  | cdAlone => exact .nothing
  | cdChanged _ => exact .directory
  | cdRefused _ => exact .directory
  | programRefused hname hspawn =>
    rw [horder _ hname]
    exact .refused hspawn
  | programEnded hname hspawn hends =>
    rw [horder _ hname, Journal.moves_append, moves_childJournal]
    obtain ⟨before, n, rfl, hbefore, hn⟩ := hends.exists_notice
    have hran := Carried.ran hspawn hbefore hn
    simpa [Entry.isMove] using hran
  | programLost hname hspawn hends =>
    obtain ⟨made, status, hended⟩ := hh _ _ _ _ _ hspawn
    cases hends.ending_unique hended

/-! ## Children that have not ended -/

/-- The children that are left behind an entry: one that is started is added, and one that is seen
to end is taken away. -/
def Entry.children (pids : List Nat) : Entry → List Nat
  | .logged (.childSpawned pid _) => pid :: pids
  | .logged (.childWaited pid n) => if n.ending = none then pids else pids.erase pid
  | _ => pids

/-- Whether an entry is part of asking for a line or orders something. -/
def Entry.Opens : Entry → Prop
  | .prompted .. | .read _ => True
  | .asked (.changeDirectory _) | .asked (.spawn ..) => True
  | _ => False

/-- The children that have not been seen to end, at the end of a journal. -/
def Journal.unended (j : Journal) : List Nat :=
  j.foldl Entry.children []

/-- There is never more than one child that has not been seen to end, and none when something opens
or at the end. -/
structure Journal.Serial (j : Journal) : Prop where
  atMostOne : ∀ before rest : Journal, j = before ++ rest → before.unended.length ≤ 1
  noneOpening : ∀ (before : Journal) (e : Entry) (rest : Journal), j = before ++ e :: rest →
    e.Opens → before.unended = []
  noneLeft : j.unended = []

/-- The same, when there are some children at the beginning. It can be put together piece by
piece. -/
def Journal.SerialFrom : List Nat → Journal → Prop
  | pids, [] => pids.length ≤ 1
  | pids, e :: j => pids.length ≤ 1 ∧ (e.Opens → pids = []) ∧ SerialFrom (e.children pids) j

namespace Journal

theorem SerialFrom.length_le {pids : List Nat} {j : Journal} (hj : SerialFrom pids j) :
    pids.length ≤ 1 := by
  cases j with
  | nil => exact hj
  | cons e j => exact hj.1

theorem serialFrom_append {pids : List Nat} {j k : Journal} :
    SerialFrom pids (j ++ k) ↔ SerialFrom pids j ∧ SerialFrom (j.foldl Entry.children pids) k := by
  induction j generalizing pids with
  | nil => exact ⟨fun hk => ⟨hk.length_le, hk⟩, fun h => h.2⟩
  | cons e j ih =>
    simp only [List.cons_append, SerialFrom, List.foldl_cons, ih]
    tauto

/-- All that counts are the moves. -/
theorem serialFrom_of_moves {pids : List Nat} {j : Journal} (hj : SerialFrom pids j.moves) :
    SerialFrom pids j ∧ j.foldl Entry.children pids = j.moves.foldl Entry.children pids := by
  induction j generalizing pids with
  | nil => exact ⟨hj, rfl⟩
  | cons e j ih =>
    rw [moves_cons] at hj ⊢
    cases he : e.isMove with
    | true =>
      rw [he, if_pos rfl] at hj
      obtain ⟨hserial, hsame⟩ := ih hj.2.2
      rw [if_pos rfl]
      exact ⟨⟨hj.1, hj.2.1, hserial⟩, hsame⟩
    | false =>
      rw [he, if_neg Bool.false_ne_true] at hj
      obtain ⟨hserial, hsame⟩ := ih hj
      have hother : e.children pids = pids ∧ ¬ e.Opens := by
        cases e with
        | logged event =>
          cases event <;> first
            | exact ⟨rfl, id⟩
            | simp [Entry.isMove] at he
        | _ => first
            | exact ⟨rfl, id⟩
            | simp [Entry.isMove] at he
      rw [if_neg Bool.false_ne_true]
      simp only [SerialFrom, List.foldl_cons, hother.1]
      exact ⟨⟨hj.length_le, fun hopens => absurd hopens hother.2, hserial⟩, hsame⟩

theorem SerialFrom.serial {j : Journal} (hj : SerialFrom [] j) (hend : j.unended = []) :
    j.Serial where
  atMostOne := by
    rintro before rest rfl
    exact (serialFrom_append.1 hj).2.length_le
  noneOpening := by
    rintro before e rest rfl
    exact (serialFrom_append.1 hj).2.2.1
  noneLeft := hend

end Journal

/-- Waits that pass leave a child unended. -/
theorem serialFrom_of_passes (pid : Nat) {before : List WaitResult}
    (hbefore : ∀ r ∈ before, r.Passes) :
    Journal.SerialFrom [pid] (before.flatMap (WaitResult.entries pid)) ∧
      (before.flatMap (WaitResult.entries pid)).foldl Entry.children [pid] = [pid] := by
  induction before with
  | nil => exact ⟨Nat.le_refl 1, rfl⟩
  | cons r before ih =>
    obtain ⟨hserial, hsame⟩ := ih fun r' hr' => hbefore r' (List.mem_cons_of_mem r hr')
    have hr := hbefore r List.mem_cons_self
    cases r with
    | notice n =>
      have hn : n.ending = none := hr
      simp [WaitResult.entries, Journal.SerialFrom, Entry.children, Entry.Opens, hn, hserial, hsame]
    | interrupted =>
      simp [WaitResult.entries, Journal.SerialFrom, Entry.children, Entry.Opens, hserial, hsame]
    | failed number =>
      simp [WaitResult.entries, Journal.SerialFrom, Entry.children, Entry.Opens, hserial, hsame]

/-- What a line orders begins and ends without children. -/
theorem Carried.serialFrom {h : Host σ} {x : σ} {orders : List Request} {command : Journal}
    (hc : Carried h x orders command) :
    Journal.SerialFrom [] command ∧ command.unended = [] := by
  cases hc with
  | nothing => exact ⟨Nat.zero_le 1, rfl⟩
  | directory => simp [Journal.SerialFrom, Journal.unended, Entry.children]
  | refused _ => simp [Journal.SerialFrom, Journal.unended, Entry.children]
  | @ran program args pid x' before n status _ hbefore hn =>
    obtain ⟨hserial, hsame⟩ := serialFrom_of_passes pid hbefore
    have hlast : Journal.SerialFrom [pid] (WaitResult.entries pid (.notice n)) ∧
        (WaitResult.entries pid (.notice n)).foldl Entry.children [pid] = [] := by
      simp [WaitResult.entries, Journal.SerialFrom, Entry.children, Entry.Opens, hn]
    have hwaits : Journal.SerialFrom [pid]
        ((before ++ [WaitResult.notice n]).flatMap (WaitResult.entries pid)) := by
      rw [List.flatMap_append, Journal.serialFrom_append, hsame]
      simpa using ⟨hserial, hlast.1⟩
    refine ⟨⟨Nat.zero_le 1, fun _ => rfl, Nat.zero_le 1, fun _ => rfl, hwaits⟩, ?_⟩
    simp only [Journal.unended, List.foldl_cons, List.flatMap_append, List.foldl_append]
    show List.foldl Entry.children
      ((before.flatMap (WaitResult.entries pid)).foldl Entry.children [pid]) _ = []
    rw [hsame]
    simpa using hlast.2

/-- Prompts come when there are no children. -/
theorem serialFrom_of_reading {j : Journal} (hj : ∀ e ∈ j, e.ofReading) :
    Journal.SerialFrom [] j.moves ∧ j.moves.foldl Entry.children [] = [] := by
  have hprompts : ∀ e ∈ j.moves, ∃ text kept, e = .prompted text kept :=
    fun e he => Journal.exists_prompted_of_mem_moves hj he
  generalize j.moves = k at hprompts ⊢
  induction k with
  | nil => exact ⟨Nat.zero_le 1, rfl⟩
  | cons e k ih =>
    obtain ⟨text, kept, rfl⟩ := hprompts e List.mem_cons_self
    obtain ⟨hserial, hsame⟩ := ih fun e' he' => hprompts e' (List.mem_cons_of_mem _ he')
    exact ⟨⟨Nat.zero_le 1, fun _ => rfl, hserial⟩, hsame⟩

theorem Blocks.serialFrom [LineReader ι] {h : Host σ} {x : σ} {s : ι} {rs : List ReadResult}
    {j : Journal} (hj : Blocks h x s rs j) : Journal.SerialFrom [] j ∧ j.unended = [] := by
  induction hj with
  | nil => exact ⟨Nat.zero_le 1, rfl⟩
  | @block x s command rest rs hcommand _ ih =>
    obtain ⟨hasking, hasked⟩ := serialFrom_of_reading (LineReader.ofReading_readLine prompt s)
    obtain ⟨hserial, hnone⟩ := hcommand.serialFrom
    unfold Journal.unended at hnone ih ⊢
    have hread : ∀ r, Entry.children [] (.read r) = [] := fun _ => rfl
    simp only [Journal.serialFrom_append, List.foldl_append, List.foldl_cons, hasked,
      Journal.SerialFrom, hread, hnone, ih, and_true]
    exact ⟨hasking, Nat.zero_le 1, fun _ => trivial, hserial⟩

namespace Session

open LineReader (next result)

section Reader

variable [LineReader ι] {h : Host σ} (hh : h.ChildrenEnd)

include hh

/-- A step makes the moves of one block. -/
theorem exists_moves_step {s : Session σ ι} (hs : s.state = .running) :
    ∃ command, Carried h s.host (result s.source 0).orders command ∧
      (step h s).journal.moves = (LineReader.readLine prompt s.source).journal.moves
        ++ .read (result s.source 0) :: command := by
  refine ⟨(handle h (result s.source 0) { s with source := next s.source }).journal.moves, ?_, ?_⟩
  · cases hr : result s.source 0 with
    | line b =>
      by_cases hb : (tokenize b).head? = some (utf8 "exit")
      · rw [handle_line_of_exit h hb]
        have hnone : (ReadResult.line b).orders = [] := if_pos hb
        rw [hnone]
        exact .nothing
      · have horders : (ReadResult.line b).orders = (orderOf (tokenize b)).toList := if_neg hb
        have hcarried := Effect.carried_ofWords hh hb s.host
        rw [handle_line_of_ne_exit h hb, horders]
        simpa [execute, dispatch_eq_effect, moves_tell, Entry.isMove] using hcarried
    | endOfInput => exact .nothing
    | failed cause =>
      rw [handle_failed]
      simp only [Journal.moves_cons, moves_report]
      exact .nothing
  · rw [step_of_running h hs, Journal.moves_append, Journal.moves_cons]
    rfl

/-- Steps make the moves of as many blocks as reads. -/
theorem blocks_steps (n : Nat) (s : Session σ ι) :
    Blocks h s.host s.source (steps h n s).journal.reads (steps h n s).journal.moves := by
  induction n generalizing s with
  | zero => exact .nil
  | succ n ih =>
    cases hs : s.state with
    | stopped d =>
      rw [steps_of_stopped h hs]
      exact .nil
    | running =>
      obtain ⟨command, hcommand, hmoves⟩ := exists_moves_step hh hs
      have hrest := ih (step h s).after
      rw [host_step, orders_step h hs, source_step h hs] at hrest
      rw [journal_steps_succ, Journal.reads_append, Journal.moves_append, reads_step h hs, hmoves]
      exact .block hcommand hrest

end Reader

/-- A run that ends has made a number of steps. -/
theorem Completes.exists_steps [LineReader ι] {h : Host σ} {s : Session σ ι}
    {act : Act (Except ShellError Unit) (Session σ ι)} (hact : Completes h s act) :
    ∃ n, act.journal = (steps h n s).journal := by
  induction hact with
  | stopped _ => exact ⟨0, rfl⟩
  | failed _ _ => exact ⟨1, by simp [steps]⟩
  | next _ _ _ ih =>
    obtain ⟨n, hn⟩ := ih
    exact ⟨n + 1, by rw [hn, journal_steps_succ]⟩

theorem blocks_steps_serial [LineReader ι] {h : Host σ} (hh : h.ChildrenEnd) (s : Session σ ι)
    (n : Nat) :
    Blocks h s.host s.source (steps h n s).journal.reads (steps h n s).journal.moves ∧
      (steps h n s).journal.Serial := by
  have hblocks := blocks_steps hh n s
  obtain ⟨hserial, hend⟩ := hblocks.serialFrom
  obtain ⟨hfrom, hsame⟩ := Journal.serialFrom_of_moves hserial
  exact ⟨hblocks, hfrom.serial (hsame.trans hend)⟩

theorem Completes.blocks_serial [LineReader ι] {h : Host σ} (hh : h.ChildrenEnd)
    {s : Session σ ι} {act : Act (Except ShellError Unit) (Session σ ι)}
    (hact : Completes h s act) :
    Blocks h s.host s.source act.journal.reads act.journal.moves ∧ act.journal.Serial := by
  obtain ⟨n, hn⟩ := Completes.exists_steps hact
  rw [hn]
  exact blocks_steps_serial hh s n

/-- **Commands are strictly serial.** Let every child that is started be seen to end, after any
number of stops, and let no wait fail. The moves of any number of steps, and of a run that ends, are
a sequence of blocks, one for each read: the prompt, which a stream shows exactly once, the read,
and the request of the line, if it makes one; if that starts a child there follow waits on this
child, of which the last one and no other brings its ending. So at every point of the journal at
most one child has not been seen to end, and none when a prompt is shown, a line is read or
something is ordered, and none behind each step and at the end of the run. On sources, which are
finite, every run ends, and it is `repl`. -/
theorem commands_are_serial [LineReader ι] {h : Host σ} (hh : h.ChildrenEnd) :
    (∀ (s : Session σ ι) (n : Nat),
      Blocks h s.host s.source (steps h n s).journal.reads (steps h n s).journal.moves ∧
        (steps h n s).journal.Serial) ∧
    (∀ (s : Session σ ι) (act : Act (Except ShellError Unit) (Session σ ι)), Completes h s act →
      Blocks h s.host s.source act.journal.reads act.journal.moves ∧ act.journal.Serial) ∧
    (∀ {κ : Type} [LineSource κ] (u : Session σ κ),
      (∀ act, Completes h u act ↔ act = u.repl h) ∧
      Blocks h u.host u.source (u.repl h).journal.reads (u.repl h).journal.moves ∧
      (u.repl h).journal.Serial) ∧
    ∀ x : StreamSource, ∃ kept,
      (LineReader.readLine prompt x).journal.moves = [.prompted prompt kept] := by
  refine ⟨blocks_steps_serial hh, fun s act hact => hact.blocks_serial hh, fun u => ?_,
    fun x => x.exists_moves_readLine prompt⟩
  exact ⟨fun act => completes_iff_eq_repl, (completes_repl h u).blocks_serial hh⟩

/-- A script with a change of directory, a program that is refused and one that is stopped and goes
on before it ends. -/
theorem commands_are_serial_of_stops :
    let h : Host Nat :=
      { changeDirectory := fun _ x => (.ok (), x)
        spawn := fun program _ x =>
          if program = utf8 "none" then (.error (.os .noEntry), x) else (.ok x, x + 1)
        conduct := fun _ x =>
          (⟨[(.out, utf8 "x")],
            [.notice (.stopped 19), .interrupted, .notice .continued, .notice (.exited 3)]⟩, x) }
    let s : Session Nat StreamSource :=
      { host := 1, diagnostics := .unlimited
        source := { supply := { script := [.bytes (utf8 "cd /\nls -l\nnone\n\nls\nexit\nls\n")] }
                    prompts := .unlimited } }
    h.ChildrenEnd ∧ Blocks h 1 s.source (s.repl h).journal.reads (s.repl h).journal.moves ∧
      (s.repl h).journal.Serial := by
  intro h s
  have hh : h.ChildrenEnd := by
    intro program args x pid x' _
    have hpasses : ∀ r ∈ [WaitResult.notice (.stopped 19), .interrupted, .notice .continued],
        r.Passes := by decide
    have hends : EndsWaiting
        ([.notice (.stopped 19), .interrupted, .notice .continued] ++ [.notice (.exited 3)]) _ _ :=
      .ended hpasses rfl
    exact ⟨_, _, hends⟩
  exact ⟨hh, ((commands_are_serial (ι := StreamSource) hh).2.2.1 s).2⟩

end Session

end LineShell
