import WormLang.Interface.Fresh
import WormLang.Main
import WormLang.Tree.Outline
import WormLang.Builder.OfOutline
import WormLang.Workbench
import WormLang.Proofs.Execution.Answer
import WormLang.Proofs.Execution.Seek
import WormLang.Proofs.Execution.Invariant
import WormLang.Proofs.Execution.Run
import WormLang.Proofs.Execution.Resumption
import WormLang.Proofs.Build.Outcome
import WormLang.Proofs.Execution.BigStep
import WormLang.Proofs.Execution.Cursor
import WormLang.Proofs.RoundTrip.Spelling
import WormLang.Proofs.RoundTrip.Printing
import WormLang.Proofs.RoundTrip.Reading
import WormLang.Proofs.RoundTrip.Rebuilding
import WormLang.Proofs.RoundTrip.Source
import WormLang.Proofs.RoundTrip.Reparsing
import WormLang.Proofs.Build.Typing
import WormLang.Proofs.Execution.Arrival
import WormLang.Proofs.Execution.Logging
import WormLang.Proofs.Execution.Boundary
import WormLang.Proofs.Execution.Extension
import WormLang.Proofs.Execution.Restart
import WormLang.Proofs.Execution.Repetition
import WormLang.Proofs.Grammar.Sound
import WormLang.Proofs.Soundness.Evaluation
import WormLang.Proofs.Soundness.Statement
import WormLang.Proofs.Soundness.Program
import WormLang.Proofs.Execution.Moment
import WormLang.Proofs.Execution.Progress
import WormLang.Proofs.Execution.Payment
import WormLang.Proofs.Build.Deeds
import WormLang.Proofs.Execution.Peace
import WormLang.Proofs.Soundness.Misreading
import WormLang.Proofs.Soundness.Rewriting
import WormLang.Proofs.Execution.Stopping
import WormLang.Proofs.Execution.Lifecycle
import WormLang.Proofs.Execution.Retry
import WormLang.Proofs.Number.Size
import WormLang.Proofs.Soundness.Sandbox
import WormLang.Proofs.Soundness.Strays
import WormLang.Proofs.Grammar.Viable
import WormLang.Proofs.Grammar.Terminals
import WormLang.Proofs.Grammar.Offence
import WormLang.Proofs.Build.Mistakes
import WormLang.Proofs.Build.Reporting
import WormLang.Proofs.Build.Omission
import WormLang.Proofs.Build.SourceOrder
import WormLang.Proofs.Build.Leaves
import WormLang.Proofs.Number.Whole
import WormLang.Proofs.Number.Order
import WormLang.Proofs.Number.Rounding
import WormLang.Proofs.Number.Shortest
import WormLang.Proofs.Number.Literal
import WormLang.Proofs.Sandbox.Frame
import WormLang.Proofs.Sandbox.Atomicity
import WormLang.Proofs.Sandbox.Ledger
import WormLang.Proofs.Sandbox.Nearest
import WormLang.Proofs.Sandbox.Angle
import WormLang.Proofs.Sandbox.Direction
import WormLang.Proofs.Grammar.Conversion
import WormLang.Proofs.Execution.Passing
import WormLang.Proofs.Build.StatementOrder
import WormLang.Proofs.RoundTrip.Unplaced
import WormLang.Proofs.Number.Value
import WormLang.Proofs.Number.Sum
