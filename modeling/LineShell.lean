import LineShell.Main
import LineShell.Proofs.Child.Balance
import LineShell.Proofs.Child.Sweep
import LineShell.Proofs.Command.EventNumber
import LineShell.Proofs.Command.FirstWord
import LineShell.Proofs.Command.Grammar
import LineShell.Proofs.Command.Marker
import LineShell.Proofs.Command.Quotation
import LineShell.Proofs.Command.Reading
import LineShell.Proofs.Dialogue.Completion
import LineShell.Proofs.Dialogue.Framing
import LineShell.Proofs.Dialogue.Leaving
import LineShell.Proofs.Dialogue.Lines
import LineShell.Proofs.Dialogue.Recital
import LineShell.Proofs.Dialogue.SameLines
import LineShell.Proofs.Dialogue.Transcript
import LineShell.Proofs.History.Log
import LineShell.Proofs.History.Words
import LineShell.Proofs.Main
import LineShell.Proofs.Output.Accepting
import LineShell.Proofs.Output.Conveying
import LineShell.Proofs.Output.Limit
import LineShell.Proofs.Program.Catalogue
import LineShell.Proofs.Program.Condition
import LineShell.Proofs.Script.Arithmetic
import LineShell.Proofs.Script.Pattern
import LineShell.Proofs.Settings.Lookup
import LineShell.Proofs.Shell.Action
import LineShell.Proofs.Shell.Agreement
import LineShell.Proofs.Shell.Buffering
import LineShell.Proofs.Shell.Capacity
import LineShell.Proofs.Shell.Children
import LineShell.Proofs.Shell.Completion
import LineShell.Proofs.Shell.Custody
import LineShell.Proofs.Shell.Dealing
import LineShell.Proofs.Shell.Delivery
import LineShell.Proofs.Shell.Faults
import LineShell.Proofs.Shell.Listing
import LineShell.Proofs.Shell.Overflow
import LineShell.Proofs.Shell.Plan
import LineShell.Proofs.Shell.Reachable
import LineShell.Proofs.Shell.Readerless
import LineShell.Proofs.Shell.Recall
import LineShell.Proofs.Shell.Recording
import LineShell.Proofs.Shell.Running
import LineShell.Proofs.Shell.Service
import LineShell.Proofs.Shell.Storing
import LineShell.Proofs.Shell.Streamless
import LineShell.Proofs.Shell.Window
import LineShell.Session
