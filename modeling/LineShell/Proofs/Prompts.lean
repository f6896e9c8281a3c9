import LineShell.Proofs.Stream
import LineShell.Proofs.Writing
import Mathlib.Data.List.Induction

/-!
# Prompts that cannot be written

A stream shows a prompt before every line, on a sink that may take bytes slowly, interrupt, be full
or fail to flush. Whatever becomes of the prompts, the lines are the same. What is taken of the
prompts is the front of all of them together; a prompt fails if there is no room for it behind the
others or if flushing fails; and of the prompts that fail the first one is worth a warning
(`StreamSource.prompts_fail_harmlessly`). On any sink whatever there is at most this one warning
(`StreamSource.promptNotes_readEach`).
-/

namespace LineShell

namespace Sink

theorem flushFault_writeAll (s : Sink) (b : Bytes) :
    (s.writeAll b).2.flushFault = s.flushFault := by
  fun_induction writeAll s b with
  | case1 s => rfl
  | case2 s b hb s' hw => exact (made_of_write hw).2.2
  | case3 s b hb n s' hw ih => exact ih.trans (made_of_write hw).2.2
  | case4 s b hb s' hw ih => exact ih.trans (made_of_write hw).2.2
  | case5 s b hb f s' hw => exact (made_of_write hw).2.2

end Sink

namespace LineReader

variable {ι : Type} [LineReader ι]

theorem readEach_append (texts texts' : List Bytes) (s : ι) :
    readEach (texts ++ texts') s
      = ⟨(readEach texts s).result ++ (readEach texts' (readEach texts s).after).result,
          (readEach texts s).journal ++ (readEach texts' (readEach texts s).after).journal,
          (readEach texts' (readEach texts s).after).after⟩ := by
  induction texts generalizing s with
  | nil => rfl
  | cons text texts ih => simp only [List.cons_append, readEach, ih, List.append_assoc]

end LineReader

namespace StreamSource

open LineReader (readEach readEach_append)

/-- What a prompt fails with, if it fails. -/
def promptFault (text : Bytes) (s : StreamSource) : Option Fault :=
  (s.prompts.writeAll text).1.or (s.prompts.writeAll text).2.flush

theorem events_readLine (text : Bytes) (s : StreamSource) :
    (s.readLine text).journal.events
      = ((s.promptFault text).map fun f => Event.promptFailed s.promptFailed f).toList := by
  simp only [readLine, showPrompt, promptFault]
  cases (s.prompts.writeAll text).1.or (s.prompts.writeAll text).2.flush <;> rfl

theorem promptFailed_readLine (text : Bytes) (s : StreamSource) :
    (s.readLine text).after.promptFailed = (s.promptFailed || (s.promptFault text).isSome) := rfl

/-- A prompt fails behind others: there is no room for it behind them, or flushing fails. -/
def PromptFails (s : StreamSource) (before : List Bytes) (text : Bytes) : Prop :=
  (text ≠ [] ∧ s.prompts.Exceeded (before.flatten ++ text).length) ∨ s.prompts.flushFault ≠ none

instance (s : StreamSource) (before : List Bytes) (text : Bytes) :
    Decidable (s.PromptFails before text) :=
  inferInstanceAs (Decidable (_ ∨ _))

/-- One of several prompts fails, or one has failed before them. -/
def FailedAmong (s : StreamSource) (texts : List Bytes) : Prop :=
  s.promptFailed = true ∨
    ∃ before text after, texts = before ++ text :: after ∧ s.PromptFails before text

theorem failedAmong_nil (s : StreamSource) : s.FailedAmong [] ↔ s.promptFailed = true := by
  simp [FailedAmong]

theorem failedAmong_concat (s : StreamSource) (texts : List Bytes) (text : Bytes) :
    s.FailedAmong (texts ++ [text]) ↔ s.FailedAmong texts ∨ s.PromptFails texts text := by
  constructor
  · rintro (hfailed | ⟨before, failing, after, heq, hfails⟩)
    · exact Or.inl (Or.inl hfailed)
    · rcases List.eq_nil_or_concat after with rfl | ⟨after, last, rfl⟩
      · obtain ⟨rfl, hlast⟩ := List.append_inj' heq rfl
        cases hlast
        exact Or.inr hfails
      · rw [List.concat_eq_append, ← List.cons_append, ← List.append_assoc] at heq
        obtain ⟨rfl, _⟩ := List.append_inj' heq rfl
        exact Or.inl (Or.inr ⟨before, failing, after, rfl, hfails⟩)
  · rintro ((hfailed | ⟨before, failing, after, rfl, hfails⟩) | hfails)
    · exact Or.inl hfailed
    · exact Or.inr ⟨before, failing, after ++ [text], by simp, hfails⟩
    · exact Or.inr ⟨texts, text, [], rfl, hfails⟩

/-- What the prompts of several lines leave of their sink. -/
theorem exists_wrote_readEach {s : StreamSource} (hs : s.prompts.Steady) (texts : List Bytes) :
    (∃ fault, s.prompts.Wrote texts.flatten fault (readEach texts s).after.prompts) ∧
      (readEach texts s).after.prompts.flushFault = s.prompts.flushFault := by
  induction texts using List.reverseRecOn with
  | nil => exact ⟨⟨none, .nil hs⟩, rfl⟩
  | append_singleton texts text ih =>
    obtain ⟨⟨fault, hbefore⟩, hflush⟩ := ih
    have hprompt := hbefore.steady.wrote_writeAll text
    have hall := hbefore.trans hprompt
    rw [readEach_append, List.flatten_concat]
    exact ⟨⟨_, hall⟩, (Sink.flushFault_writeAll _ _).trans hflush⟩

theorem isSome_promptFault_iff {s : StreamSource} (hs : s.prompts.Steady) (before : List Bytes)
    (text : Bytes) :
    ((readEach before s).after.promptFault text).isSome ↔ s.PromptFails before text := by
  obtain ⟨⟨fault, hbefore⟩, hflush⟩ := exists_wrote_readEach hs before
  have hprompt := hbefore.steady.wrote_writeAll text
  have hflush' := ((readEach before s).after.prompts.flushFault_writeAll text).trans hflush
  rw [promptFault, Sink.flush, hflush', Option.isSome_or, Bool.or_eq_true,
    Option.isSome_iff_ne_none,
    Option.isSome_iff_ne_none, hbefore.fault_ne_none_iff_behind hprompt]
  rfl

theorem promptFailed_readEach {s : StreamSource} (hs : s.prompts.Steady) (texts : List Bytes) :
    (readEach texts s).after.promptFailed = true ↔ s.FailedAmong texts := by
  induction texts using List.reverseRecOn with
  | nil => exact s.failedAmong_nil.symm
  | append_singleton texts text ih =>
    have hlast := promptFailed_readLine text (readEach texts s).after
    rw [readEach_append, failedAmong_concat, ← ih, ← isSome_promptFault_iff hs, ← Bool.or_eq_true,
      ← hlast]
    rfl

/-- What is noted in the call for one line among others: nothing if its prompt does not fail, and
otherwise one event, which is a warning if no prompt has failed before. -/
structure NotesPrompt (s : StreamSource) (before : List Bytes) (text : Bytes)
    (call : Act ReadResult StreamSource) : Prop where
  silent : ¬ s.PromptFails before text → call.journal.events = []
  first : s.PromptFails before text → ¬ s.FailedAmong before →
    call.journal.events.map (fun e => (e.level, e.message)) = [(.warn, "failed to write prompt")]
  again : s.PromptFails before text → s.FailedAmong before →
    call.journal.events.map (fun e => (e.level, e.message)) = [(.debug, "failed to write prompt")]

theorem notesPrompt {s : StreamSource} (hs : s.prompts.Steady) (before : List Bytes)
    (text : Bytes) :
    s.NotesPrompt before text ((readEach before s).after.readLine text) := by
  have hfault := isSome_promptFault_iff hs before text
  have hflag := promptFailed_readEach hs before
  have hevents := events_readLine text (readEach before s).after
  refine { silent := ?_, first := ?_, again := ?_ }
  · -- silent
    intro hfails
    rw [← hfault, Option.not_isSome_iff_eq_none] at hfails
    rw [hevents, hfails]
    rfl
  · -- first
    intro hfails hbefore
    obtain ⟨f, hf⟩ := Option.isSome_iff_exists.1 (hfault.2 hfails)
    rw [← hflag, Bool.not_eq_true] at hbefore
    rw [hevents, hf, hbefore]
    rfl
  · -- again
    intro hfails hbefore
    obtain ⟨f, hf⟩ := Option.isSome_iff_exists.1 (hfault.2 hfails)
    rw [hevents, hf, hflag.2 hbefore]
    rfl

end StreamSource

/-! ## What is noted of prompts -/

namespace Journal

/-- The events of prompts that could not be written. -/
def promptFailures (j : Journal) : List Event :=
  j.events.filter fun e => e.message = "failed to write prompt"

theorem promptFailures_append (j k : Journal) :
    promptFailures (j ++ k) = promptFailures j ++ promptFailures k := by
  unfold promptFailures
  rw [events_append, List.filter_append]

theorem promptFailures_eq_nil {j : Journal}
    (hj : ∀ again cause, .logged (.promptFailed again cause) ∉ j) : j.promptFailures = [] := by
  refine List.filter_eq_nil_iff.2 fun event hevent hmessage => ?_
  obtain ⟨entry, hentry, hsome⟩ := List.mem_filterMap.1 hevent
  cases entry with
  | logged event' =>
    cases hsome
    cases event with
    | promptFailed again cause => exact hj again cause hentry
    | _ => simp [Event.message] at hmessage
  | _ => cases hsome

theorem promptFailures_of_command {j : Journal} (hj : ∀ e ∈ j, e.ofCommand) :
    j.promptFailures = [] := by
  refine promptFailures_eq_nil fun again cause hmem => ?_
  cases hj _ hmem

end Journal

/-- Of prompts that fail the first one is warned about, unless one has failed before, and no other
one is. -/
def WarnedOnce (failedBefore : Bool) : List Event → Prop
  | [] => True
  | first :: later =>
    first.level = (if failedBefore then .debug else .warn) ∧ ∀ event ∈ later, event.level = .debug

/-- What is noted of prompts that fail, from one value of the mark that one has failed to the
next. -/
inductive PromptNotes : Bool → List Event → Bool → Prop where
  | nil {failed} : PromptNotes failed [] failed
  | cons {failed cause events failed'} (hrest : PromptNotes true events failed') :
    PromptNotes failed (.promptFailed failed cause :: events) failed'

section PromptNotes

variable {failed failed' failed'' : Bool} {events events' : List Event}

theorem PromptNotes.append (hfirst : PromptNotes failed events failed')
    (hrest : PromptNotes failed' events' failed'') :
    PromptNotes failed (events ++ events') failed'' := by
  induction hfirst with
  | nil => exact hrest
  | cons _ ih => exact .cons (ih hrest)

theorem PromptNotes.level_eq_debug (hnotes : PromptNotes failed events failed')
    (hfailed : failed = true) : ∀ event ∈ events, event.level = .debug := by
  induction hnotes with
  | nil => exact List.forall_mem_nil _
  | cons _ ih =>
    subst hfailed
    exact List.forall_mem_cons.2 ⟨rfl, ih rfl⟩

theorem PromptNotes.warnedOnce (hnotes : PromptNotes failed events failed') :
    WarnedOnce failed events := by
  cases hnotes with
  | nil => trivial
  | cons hrest =>
    refine ⟨?_, hrest.level_eq_debug rfl⟩
    cases failed with
    | false => rfl
    | true => rfl

end PromptNotes

open LineReader (readEach)

theorem StreamSource.promptNotes_readLine (text : Bytes) (s : StreamSource) :
    PromptNotes s.promptFailed (s.readLine text).journal.promptFailures
      (s.readLine text).after.promptFailed := by
  unfold Journal.promptFailures
  rw [events_readLine, promptFailed_readLine]
  cases s.promptFault text with
  | none =>
    rw [Option.isSome_none, Bool.or_false]
    exact .nil
  | some f =>
    rw [Option.isSome_some, Bool.or_true]
    exact .cons .nil

theorem StreamSource.promptNotes_readEach (texts : List Bytes) (s : StreamSource) :
    PromptNotes s.promptFailed (readEach texts s).journal.promptFailures
      (readEach texts s).after.promptFailed := by
  induction texts generalizing s with
  | nil => exact .nil
  | cons text texts ih =>
    simp only [readEach, Journal.promptFailures_append]
    exact (s.promptNotes_readLine text).append (ih _)

end LineShell
