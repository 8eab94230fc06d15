import Dataflow.Instruction.Canonical
import Dataflow.Machine.History
import Dataflow.Machine.Interpretation
import Dataflow.Main
import Dataflow.Proofs.Bounds
import Dataflow.Proofs.RecordFormat
import Dataflow.Proofs.Relisting
import Dataflow.Proofs.Reloading
import Dataflow.Proofs.SinglePass
import Dataflow.Proofs.Tracing
import Dataflow.Proofs.Encoding
import Dataflow.Proofs.Assembled
import Dataflow.Proofs.Accepting
import Dataflow.Proofs.Saving
import Dataflow.Proofs.Histories
import Dataflow.Proofs.Lifecycle
import Dataflow.Proofs.PortHistory
import Dataflow.Proofs.Unwritten
import Dataflow.Proofs.Slices
import Dataflow.Proofs.Contents
import Dataflow.Proofs.BankSizes
import Dataflow.Proofs.Settling
import Dataflow.Proofs.FileStores
import Dataflow.Proofs.OptionTexts
import Dataflow.Proofs.GivenArguments
import Dataflow.Proofs.AskedRequests
import Dataflow.Proofs.AssembledRuns
import Dataflow.Proofs.Offences
import Dataflow.Proofs.Strictness
import Dataflow.Proofs.ReservedBits
import Dataflow.Proofs.LineLocality
import Dataflow.Proofs.Displays
