import LineShell.Main
import LineShell.Builtin.Scripted
import LineShell.Proofs.ExitCommand
import LineShell.Proofs.StopCauses
import LineShell.Session
import LineShell.Proofs.Executions
import LineShell.Proofs.Atomicity
import LineShell.Proofs.Prompting
import LineShell.Proofs.Growth
import LineShell.Proofs.Sequence
import LineShell.Proofs.BrokenInput
import LineShell.Proofs.ExternalCommand
import LineShell.Proofs.StatusRange
import LineShell.Proofs.Attribution
import LineShell.Proofs.ByteWords
import LineShell.Proofs.Inheritance
import LineShell.Proofs.Listing
import LineShell.Proofs.Concatenation
import LineShell.Proofs.Rejoining
import LineShell.Proofs.SearchLists
import LineShell.Proofs.VariableHistory
import LineShell.Proofs.FullStreams
import LineShell.Proofs.CommandLine
import LineShell.Proofs.Diagnostics
import LineShell.Proofs.Numerals
import LineShell.Proofs.ProcessWords
import LineShell.Proofs.Precedence
import LineShell.Proofs.Rejection
import LineShell.Proofs.ProcessStatus
