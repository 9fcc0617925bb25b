import AluBench.Main
import AluBench.Proofs.Bench
import AluBench.Proofs.Operation.Grammar
import AluBench.Proofs.Report.Failure
import AluBench.Proofs.Report.Json
import AluBench.Proofs.Run.Append
import AluBench.Proofs.Run.Consistency
import AluBench.Proofs.Run.Detection
import AluBench.Proofs.Run.Exact
import AluBench.Proofs.Run.FailFast
import AluBench.Proofs.Run.Fields
import AluBench.Proofs.Run.Log
import AluBench.Proofs.Run.ModelWire
import AluBench.Proofs.Run.Nibbles
import AluBench.Proofs.Run.Order
import AluBench.Proofs.Run.Recovery
import AluBench.Proofs.Run.Reference
import AluBench.Proofs.Session
import AluBench.Proofs.Sweep.Positions
