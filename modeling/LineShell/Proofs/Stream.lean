import LineShell.Input.Stream
import LineShell.Proofs.Reading

/-!
# Streams as readers

What a stream gives depends on its supply alone. The sink for prompts may take nothing at all, and
the lines are the same.
-/

namespace LineShell

namespace Supply

/-- The supply behind a number of lines. -/
def afterLines (s : Supply) : Nat → Supply
  | 0 => s
  | n + 1 => afterLines s.readLine.2 n

/-- The results of reading a number of lines. -/
def firstLines (s : Supply) : Nat → List ReadResult
  | 0 => []
  | n + 1 => s.readLine.1 :: firstLines s.readLine.2 n

@[simp] theorem length_firstLines (s : Supply) (n : Nat) : (s.firstLines n).length = n := by
  induction n generalizing s with
  | zero => rfl
  | succ n ih => simp [firstLines, ih]

end Supply

namespace StreamSource

open LineReader (next result results readEach afterReads SameResults)

theorem supply_afterReads (s : StreamSource) (n : Nat) :
    (afterReads s n).supply = s.supply.afterLines n := by
  induction n generalizing s with
  | zero => rfl
  | succ n ih => exact ih (next s)

theorem result_eq (s : StreamSource) (n : Nat) :
    result s n = (s.supply.afterLines n).readLine.1 := by
  rw [← supply_afterReads]
  rfl

theorem results_eq (s : StreamSource) (n : Nat) : results s n = s.supply.firstLines n := by
  induction n generalizing s with
  | zero => rfl
  | succ n ih =>
    have hrest := ih (next s)
    simp only [results, Supply.firstLines, hrest]
    rfl

/-- Whatever the prompts are, reads of a stream are lines of its supply, one after another. -/
theorem readEach_eq (texts : List Bytes) (s : StreamSource) :
    (readEach texts s).result = s.supply.firstLines texts.length ∧
      (readEach texts s).after.supply = s.supply.afterLines texts.length := by
  induction texts generalizing s with
  | nil => exact ⟨rfl, rfl⟩
  | cons text texts ih =>
    obtain ⟨hresult, hafter⟩ := ih (LineReader.readLine text s).after
    refine ⟨?_, hafter⟩
    simp only [readEach, hresult, List.length_cons, Supply.firstLines]
    rfl

/-- Streams with the same supply give the same results, whatever becomes of their prompts. -/
theorem sameResults {s t : StreamSource} (hst : s.supply = t.supply) : SameResults s t := by
  intro n _
  rw [result_eq, result_eq, hst]

end StreamSource

end LineShell
