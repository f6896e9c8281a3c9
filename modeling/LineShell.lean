import LineShell.Main
import LineShell.Proofs.Entries
import LineShell.Proofs.Dispatch
import LineShell.Proofs.Reading
import LineShell.Proofs.Step
import LineShell.Proofs.Loop
import LineShell.Proofs.Control
import LineShell.Proofs.History
import LineShell.Proofs.Stopping
import LineShell.Proofs.Arrivals
import LineShell.Proofs.Lines
import LineShell.Proofs.Layouts
import LineShell.Proofs.Script
import LineShell.Proofs.Piecemeal
import LineShell.Proofs.Stretches
import LineShell.Proofs.Writing
import LineShell.Proofs.Effects
import LineShell.Proofs.Agenda
import LineShell.Proofs.SameWords
import LineShell.Proofs.Refusal
import LineShell.Proofs.Continuation
import LineShell.Proofs.Encoding
import LineShell.Proofs.PlainInput
import LineShell.Proofs.Telling
import LineShell.Proofs.Serial
import LineShell.Proofs.Series
import LineShell.Proofs.Prompts
import LineShell.Proofs.Losses
import LineShell.Proofs.Progress
import LineShell.Proofs.Blankness
import LineShell.Proofs.Interrupts
import LineShell.Proofs.Room
import LineShell.Proofs.Names
import LineShell.Proofs.Notes
