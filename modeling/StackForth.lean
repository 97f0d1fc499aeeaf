import StackForth.Assembler
import StackForth.CommandLine.Run
import StackForth.Console.Terminal
import StackForth.Listing
import StackForth.Machine.Load
import StackForth.Main
import StackForth.Proofs.Acceptance
import StackForth.Proofs.Assembling
import StackForth.Proofs.Batch
import StackForth.Proofs.Bounds
import StackForth.Proofs.Coherence
import StackForth.Proofs.Confinement
import StackForth.Proofs.Correctness
import StackForth.Proofs.Evaluation
import StackForth.Proofs.Failing
import StackForth.Proofs.Grammar
import StackForth.Proofs.Independence
import StackForth.Proofs.Locating
import StackForth.Proofs.Moves
import StackForth.Proofs.Placement
import StackForth.Proofs.Procedure
import StackForth.Proofs.Replay
import StackForth.Proofs.Reporting
import StackForth.Proofs.Run
import StackForth.Proofs.Safety
import StackForth.Proofs.Session
import StackForth.Proofs.Simulation
import StackForth.Proofs.Term
import StackForth.Proofs.Termination
import StackForth.Proofs.Thread
import StackForth.SelfCheck.Assembler
import StackForth.SelfCheck.Console
import StackForth.Session
import StackForth.Proofs.Budget
import StackForth.Proofs.Resumption
import StackForth.Proofs.Linking
import StackForth.Proofs.Nesting
import StackForth.Proofs.Alongside
import StackForth.Proofs.Framing
import StackForth.Proofs.Range
import StackForth.Proofs.Wrapping
import StackForth.Proofs.Oblivious
import StackForth.Proofs.Streaming
import StackForth.Proofs.Requests
import StackForth.Proofs.Legality
import StackForth.Proofs.Forward
import StackForth.Proofs.Tracing
import StackForth.Proofs.Installing
import StackForth.Proofs.Listing
import StackForth.Proofs.Count
import StackForth.Proofs.Dialogue
import StackForth.Proofs.Numeral
