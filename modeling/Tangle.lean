import Tangle.Main
import Tangle.Proofs.Advice
import Tangle.Proofs.CommandLine.Callback
import Tangle.Proofs.CommandLine.Document
import Tangle.Proofs.CommandLine.Ending
import Tangle.Proofs.Definition.Balance
import Tangle.Proofs.Document.LineEnds
import Tangle.Proofs.Embedding
import Tangle.Proofs.Feeding
import Tangle.Proofs.HookFile
import Tangle.Proofs.HookFile.Refusal
import Tangle.Proofs.Pass.Arguments
import Tangle.Proofs.Pass.Collection
import Tangle.Proofs.Pass.Commands
import Tangle.Proofs.Pass.Composition
import Tangle.Proofs.Pass.Documentation
import Tangle.Proofs.Pass.Lines
import Tangle.Proofs.Pass.Nameless
import Tangle.Proofs.Pass.Outcome
import Tangle.Proofs.Pass.Sequence
import Tangle.Proofs.Pass.Verbatim
import Tangle.Proofs.Quoting.Word
import Tangle.Proofs.Session.Bindings
import Tangle.Proofs.Session.Course
import Tangle.Proofs.Session.Definitions
import Tangle.Proofs.Session.Loading
import Tangle.Proofs.CommandLine.Compilation
