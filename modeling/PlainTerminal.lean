import PlainTerminal.CommandLine
import PlainTerminal.Machine.Supervise
import PlainTerminal.Main
import PlainTerminal.Model.ChatClient
import PlainTerminal.Proofs.Assistant
import PlainTerminal.Proofs.Capture
import PlainTerminal.Proofs.Challenge.Lock
import PlainTerminal.Proofs.Challenge.Progress
import PlainTerminal.Proofs.Challenge.Seeded
import PlainTerminal.Proofs.Challenge.Writes
import PlainTerminal.Proofs.Command.Policy
import PlainTerminal.Proofs.Command.Quoted
import PlainTerminal.Proofs.Dialogue
import PlainTerminal.Proofs.Dialogue.Course
import PlainTerminal.Proofs.Dialogue.InStep
import PlainTerminal.Proofs.Dialogue.Reliance
import PlainTerminal.Proofs.Executor
import PlainTerminal.Proofs.Gate.SmallTalk
import PlainTerminal.Proofs.Json.Doubles
import PlainTerminal.Proofs.Json.Reading
import PlainTerminal.Proofs.Likeness.EditDistance
import PlainTerminal.Proofs.Likeness.Match
import PlainTerminal.Proofs.Likeness.Repair
import PlainTerminal.Proofs.Model.Interpretation
import PlainTerminal.Proofs.Model.Suggestions
import PlainTerminal.Proofs.Path
import PlainTerminal.Proofs.Resolution
import PlainTerminal.Proofs.Router.Builtins
import PlainTerminal.Proofs.Router.Calls
import PlainTerminal.Proofs.Router.Commands
import PlainTerminal.Proofs.Router.Confinement
import PlainTerminal.Proofs.Router.Denied
import PlainTerminal.Proofs.Router.DirectoryChange
import PlainTerminal.Proofs.Router.Dispatch
import PlainTerminal.Proofs.Router.ExitCodes
import PlainTerminal.Proofs.Router.FileLines
import PlainTerminal.Proofs.Router.Harmless
import PlainTerminal.Proofs.Router.History
import PlainTerminal.Proofs.Router.Honesty
import PlainTerminal.Proofs.Router.Inside
import PlainTerminal.Proofs.Router.InternalErrors
import PlainTerminal.Proofs.Router.Listing
import PlainTerminal.Proofs.Router.OneByOne
import PlainTerminal.Proofs.Router.Opened
import PlainTerminal.Proofs.Router.Operands
import PlainTerminal.Proofs.Router.Progress
import PlainTerminal.Proofs.Router.QuotedText
import PlainTerminal.Proofs.Router.ReadBack
import PlainTerminal.Proofs.Router.RealShell
import PlainTerminal.Proofs.Router.Redirect
import PlainTerminal.Proofs.Router.Secrecy
import PlainTerminal.Proofs.Router.Steady
import PlainTerminal.Proofs.Router.Submission
import PlainTerminal.Proofs.Router.Whereabouts
import PlainTerminal.Proofs.Service.Footing
import PlainTerminal.Proofs.Service.Isolation
import PlainTerminal.Proofs.Service.ReadOnly
import PlainTerminal.Proofs.Service.Rejection
import PlainTerminal.Proofs.Service.Requests
import PlainTerminal.Proofs.Service.Sandbox
import PlainTerminal.Proofs.Service.Trespass
import PlainTerminal.Proofs.Shell.Reading
import PlainTerminal.Proofs.Store.Listing
import PlainTerminal.Proofs.Store.Overlap
import PlainTerminal.Proofs.Store.Permanence
import PlainTerminal.Proofs.Text.Words
import PlainTerminal.Proofs.Tree
import PlainTerminal.Proofs.Tree.Emptied
import PlainTerminal.Proofs.Tree.FiniteMap
import PlainTerminal.Proofs.Tree.Inode
import PlainTerminal.Proofs.Tree.WellFormed
import PlainTerminal.Service
