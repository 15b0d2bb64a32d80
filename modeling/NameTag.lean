import NameTag.Main
import NameTag.Version
import NameTag.Proofs.AssignmentOrder
import NameTag.Proofs.Reachable
import NameTag.Proofs.RoundTrip
import NameTag.Proofs.Atomic
import NameTag.Proofs.Batch.Item
import NameTag.Proofs.Batch.Dispatch
import NameTag.Proofs.Diagnostics
import NameTag.Proofs.Extract.Faultless
import NameTag.Proofs.Batch.Independent
import NameTag.Proofs.Frame.Timestamp
import NameTag.Proofs.Frame.RoundTrip
import NameTag.Proofs.Rebuild
import NameTag.Proofs.Text.Capitals
import NameTag.Proofs.Extract.CaseMode
import NameTag.Proofs.Extract.Modes
import NameTag.Proofs.Render.Reachable
import NameTag.Proofs.Command.Act
import NameTag.Proofs.Command.Preparation
import NameTag.Proofs.Command.Report
import NameTag.Proofs.Command.Warnings
import NameTag.Proofs.Weed.Confined
import NameTag.Proofs.Weed.Faults
import NameTag.Proofs.Batch.Weed
import NameTag.Proofs.Settings
import NameTag.Proofs.Command.Weed
import NameTag.Proofs.Extract.Success
import NameTag.Proofs.StoreRun
import NameTag.Proofs.Extract.Untouched
import NameTag.Proofs.Repeat
import NameTag.Proofs.Loss
import NameTag.Proofs.Extract.Separated
import NameTag.Proofs.Frame.Isolated
import NameTag.Proofs.Render.MaxLength
import NameTag.Proofs.Extract.Refusal
import NameTag.Proofs.Batch.Checked
import NameTag.Proofs.Command.Input
import NameTag.Proofs.Command.Options
import NameTag.Proofs.Command.ExitCode
import NameTag.Proofs.Text.Truncation
import NameTag.Proofs.Text.AsciiCase
import NameTag.Proofs.TrackNumber.Stable
import NameTag.Proofs.Command.Output
