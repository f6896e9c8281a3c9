import LineShell.Input.Source
import LineShell.Input.Supply

/-!
# Streams as line sources

A stream gives the lines of a supply with their ends of line, and shows prompts on a sink of its
own. A prompt that cannot be written is noted, the first time as a warning, and the line is read
all the same.
-/

namespace LineShell

/-- A supply of lines and the sink for prompts. -/
structure StreamSource where
  supply : Supply
  prompts : Sink
  /-- Whether a prompt has failed before. -/
  promptFailed : Bool := false

namespace StreamSource

/-- Write and flush a prompt. -/
def showPrompt (text : Bytes) (s : StreamSource) : Journal × StreamSource :=
  let (fault, sink) := s.prompts.writeAll text
  let fault := fault.or sink.flush
  (.prompted text (sink.keptSince s.prompts)
      :: (fault.map fun f => Entry.logged (.promptFailed s.promptFailed f)).toList,
    { s with prompts := sink, promptFailed := s.promptFailed || fault.isSome })

/-- Showing a prompt leaves the supply alone. -/
@[simp] theorem supply_showPrompt (text : Bytes) (s : StreamSource) :
    (s.showPrompt text).2.supply = s.supply := rfl

/-- Showing a prompt is part of reading a line. -/
theorem ofReading_showPrompt (text : Bytes) (s : StreamSource) :
    ∀ e ∈ (s.showPrompt text).1, e.ofReading := by
  simp [showPrompt, Entry.ofReading]

/-- Show a prompt and read a line. -/
def readLine (text : Bytes) (s : StreamSource) : Act ReadResult StreamSource :=
  let (j, s') := s.showPrompt text
  let (result, supply) := s'.supply.readLine
  ⟨result, j, { s' with supply := supply }⟩

end StreamSource

instance : LineSource StreamSource where
  readLine := StreamSource.readLine
  ofReading_readLine text s := s.ofReading_showPrompt text
  remaining s := s.supply.size
  remaining_lt text s b h := by
    simp only [StreamSource.readLine, StreamSource.supply_showPrompt] at h ⊢
    exact Supply.size_readLine_lt h

end LineShell
