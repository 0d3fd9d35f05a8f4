import EvmFlow.CommandLine.Execution
import EvmFlow.Contract.Study
import EvmFlow.Export.Report
import EvmFlow.Graph.Branch
import EvmFlow.Main
import EvmFlow.Proofs.Code.Agreement
import EvmFlow.Proofs.Code.Spelling
import EvmFlow.Proofs.Code.Trailers
import EvmFlow.Proofs.Contract.Branches
import EvmFlow.Proofs.Contract.Descent
import EvmFlow.Proofs.Contract.Entries
import EvmFlow.Proofs.Contract.Revision
import EvmFlow.Proofs.Contract.Selectors
import EvmFlow.Proofs.Exploration.Frame
import EvmFlow.Proofs.Exploration.Jumps
import EvmFlow.Proofs.Exploration.Matching
import EvmFlow.Proofs.Export.Overwriting
import EvmFlow.Proofs.Graph.Settlement
import EvmFlow.Proofs.Value.Blurring
import EvmFlow.Proofs.Value.BoundedJoin
import EvmFlow.Proofs.Value.Capacity
import EvmFlow.Proofs.Value.Interpretation
import EvmFlow.Proofs.Value.Merge
import EvmFlow.Signature.Known
