import LineShell.Journal

/-!
# What readers and commands leave in a journal

Reading a line leaves no trace of commands in a journal, and carrying out a command leaves no trace
of reading. So the results of reads, the words carried out and the orders given can be told apart
in the journal of a whole run.
-/

namespace LineShell

namespace Journal

variable {j : Journal}

/-- A projection that shows nothing of one kind of entry shows nothing of a journal of that kind. -/
theorem filterMap_of_kind {α : Type} {kind : Entry → Bool} {f : Entry → Option α}
    (hf : ∀ e, kind e → f e = none) (h : ∀ e ∈ j, kind e) : j.filterMap f = [] :=
  List.filterMap_eq_nil_iff.2 fun e he => hf e (h e he)

/-! ## Reading -/

theorem reads_of_reading (h : ∀ e ∈ j, e.ofReading) : j.reads = [] :=
  filterMap_of_kind (fun e he => by cases e <;> first | rfl | cases he) h

theorem dispatches_of_reading (h : ∀ e ∈ j, e.ofReading) : j.dispatches = [] :=
  filterMap_of_kind (fun e he => by cases e <;> first | rfl | cases he) h

theorem orders_of_reading (h : ∀ e ∈ j, e.ofReading) : j.orders = [] :=
  filterMap_of_kind (fun e he => by cases e <;> first | rfl | cases he) h

theorem remembered_of_composing (h : ∀ e ∈ j, e.ofComposing) : j.remembered = [] :=
  filterMap_of_kind (fun e he => by cases e <;> first | rfl | cases he) h

/-! ## Commands -/

theorem reads_of_command (h : ∀ e ∈ j, e.ofCommand) : j.reads = [] :=
  filterMap_of_kind (fun e he => by cases e <;> first | rfl | cases he) h

theorem remembered_of_command (h : ∀ e ∈ j, e.ofCommand) : j.remembered = [] :=
  filterMap_of_kind (fun e he => by cases e <;> first | rfl | cases he) h

theorem dispatches_of_command (h : ∀ e ∈ j, e.ofCommand) : j.dispatches = [] :=
  filterMap_of_kind (fun e he => by cases e <;> first | rfl | cases he) h

end Journal

end LineShell
