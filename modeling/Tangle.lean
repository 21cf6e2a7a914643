import Tangle.Main
import Tangle.Proofs.Block.Shape
import Tangle.Proofs.Outline
import Tangle.Proofs.Block.Standing
import Tangle.Proofs.Outline.Following
import Tangle.Proofs.Block.Script
import Tangle.Proofs.Table
import Tangle.Proofs.Report
import Tangle.Proofs.Pass.Calls
import Tangle.Proofs.Scissors.Unmarked
import Tangle.Proofs.Text.Line
import Tangle.Proofs.Written
import Tangle.Proofs.Written.Reading
import Tangle.Proofs.Sink.Memory
import Tangle.Proofs.Written.Tangling
import Tangle.Proofs.Scissors.Ranges
import Tangle.Proofs.Block.Feed
import Tangle.Proofs.Block.Invariant
import Tangle.Proofs.Block.Renumber
import Tangle.Proofs.Scissors.Extraction
import Tangle.Proofs.Block.Holding
import Tangle.Proofs.Pass.Handles
import Tangle.Proofs.Sink.Contents
import Tangle.Proofs.Pass.Again
import Tangle.Proofs.Pass.Seam
import Tangle.Proofs.Block.Leniency
import Tangle.Proofs.Pass.Honest
import Tangle.Proofs.Pass.Diagnosis
import Tangle.Proofs.Sink.Handle
import Tangle.Proofs.Sink.Agreement
import Tangle.Proofs.Scissors.Pattern
import Tangle.Proofs.Block.Grammar
import Tangle.Proofs.Block.Body
import Tangle.Proofs.Pass.Preview
import Tangle.Proofs.Text.Ends
import Tangle.Proofs.Sink.History
import Tangle.Proofs.Pass.Ledger
import Tangle.Proofs.Path
import Tangle.Proofs.Disk.Walk
import Tangle.Proofs.Glob.Search
import Tangle.Proofs.Path.Order
import Tangle.Proofs.Setting.Documents
import Tangle.Proofs.Block.Failure
import Tangle.Proofs.Setting.Selection
import Tangle.Proofs.Path.Ancestors
import Tangle.Proofs.Disk.Passage
import Tangle.Proofs.Config.Nearest
import Tangle.Proofs.Toml.Quoted
import Tangle.Proofs.Toml.Numeral
import Tangle.Proofs.Toml.Document
import Tangle.Proofs.Config.Rendering
