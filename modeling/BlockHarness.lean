import BlockHarness.Command.Line
import BlockHarness.World.System
import BlockHarness.Main
import BlockHarness.Process.Piping
import BlockHarness.Command.Course
import BlockHarness.Proofs.Layout
import BlockHarness.Proofs.RawExtraction
import BlockHarness.Proofs.Verdict
import BlockHarness.Proofs.Growth
import BlockHarness.Proofs.Intake
import BlockHarness.Proofs.Answer
import BlockHarness.Proofs.NormalForm
import BlockHarness.Proofs.ReportLines
import BlockHarness.Proofs.Refusal
import BlockHarness.Proofs.Interleaving
import BlockHarness.Proofs.Piping
import BlockHarness.Proofs.Rendering
import BlockHarness.Proofs.Selection
import BlockHarness.Proofs.Damage
import BlockHarness.Proofs.Loading
import BlockHarness.Proofs.Effective
import BlockHarness.Proofs.Labels
import BlockHarness.Proofs.JsonRecords
import BlockHarness.Proofs.Quotation
import BlockHarness.Proofs.Resolution
import BlockHarness.Proofs.Colour
import BlockHarness.Proofs.Decoding
import BlockHarness.Proofs.Offsets
import BlockHarness.Proofs.Wholeness
import BlockHarness.Proofs.Tables
import BlockHarness.Proofs.Defaults
