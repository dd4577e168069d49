import FrameDetect.Cycle.Rehearsal
import FrameDetect.Machine
import FrameDetect.Main
import FrameDetect.Time.Reading
import FrameDetect.Proofs.Number.Packing
import FrameDetect.Proofs.Detect.Contest
import FrameDetect.Proofs.Detect.Kept
import FrameDetect.Proofs.Detect.Greedy
import FrameDetect.Proofs.Tensor.Decoding
import FrameDetect.Proofs.Detect.RaisedConfidence
import FrameDetect.Proofs.Detect.Reference
import FrameDetect.Proofs.Cycle.Fitted
import FrameDetect.Proofs.Cycle.Scene
import FrameDetect.Proofs.Cycle.Emission
import FrameDetect.Proofs.Cycle.Protocol
import FrameDetect.Proofs.Cycle.Reachable
import FrameDetect.Proofs.Cycle.Session
import FrameDetect.Proofs.Cycle.Published
import FrameDetect.Proofs.Run.Counts
import FrameDetect.Proofs.Run.Chronicle
import FrameDetect.Proofs.Run.Step
import FrameDetect.Proofs.Run.Whole
import FrameDetect.Proofs.Cycle.Lockstep
import FrameDetect.Proofs.Cycle.Renewal
import FrameDetect.Proofs.Cycle.Overheard
import FrameDetect.Proofs.Run.BestEffort
import FrameDetect.Proofs.Cycle.Unbroken
import FrameDetect.Proofs.Run.OneShot
import FrameDetect.Proofs.Run.Labelled
import FrameDetect.Proofs.Program.Feed
import FrameDetect.Proofs.Program.Yields
import FrameDetect.Proofs.Program.Sinks
import FrameDetect.Proofs.Program.HostCycle
import FrameDetect.Proofs.Program.HostRun
import FrameDetect.Proofs.Cycle.Decoding
import FrameDetect.Proofs.Number.Nearest
import FrameDetect.Proofs.Number.Rounding
import FrameDetect.Proofs.Number.Arithmetic
import FrameDetect.Proofs.Detect.SelfOverlap
import FrameDetect.Proofs.Tensor.Dequantization
import FrameDetect.Proofs.Cycle.Duplicates
import FrameDetect.Proofs.Number.Extended
import FrameDetect.Proofs.Detect.Clamping
import FrameDetect.Proofs.Cycle.Placement
import FrameDetect.Proofs.Number.SignedZero
import FrameDetect.Proofs.Detect.Independence
import FrameDetect.Proofs.Run.OneCycle
import FrameDetect.Proofs.Detect.InPlace
import FrameDetect.Proofs.Detect.Upkeep
import FrameDetect.Proofs.Text.Plain
import FrameDetect.Proofs.Storage.Appending
import FrameDetect.Proofs.Publish.Record
import FrameDetect.Proofs.Detect.GivingWay
import FrameDetect.Proofs.Detect.Descending
import FrameDetect.Proofs.Cycle.Balance
import FrameDetect.Proofs.Detect.OverlapBounds
import FrameDetect.Proofs.Tensor.FirstGreatest
import FrameDetect.Proofs.Number.Whole
import FrameDetect.Proofs.Image.Canvas
import FrameDetect.Proofs.Publish.Drawing
import FrameDetect.Proofs.Publish.Outlines
import FrameDetect.Proofs.Publish.Touched
import FrameDetect.Proofs.Number.Indeterminate
import FrameDetect.Proofs.Number.Magnitude
import FrameDetect.Proofs.Detect.Separate
import FrameDetect.Proofs.Tensor.Separation
import FrameDetect.Proofs.Video.Frame
import FrameDetect.Proofs.Number.Identity
import FrameDetect.Proofs.Number.Closest
import FrameDetect.Proofs.Number.HalfAway
import FrameDetect.Proofs.Settings.Checked
import FrameDetect.Proofs.Settings.Percent
import FrameDetect.Proofs.Publish.Rounded
import FrameDetect.Proofs.Text.Numeral
import FrameDetect.Proofs.Settings.Parameters
import FrameDetect.Proofs.Program.Resolution
import FrameDetect.Proofs.Video.Accounting
import FrameDetect.Proofs.Text.Blank
import FrameDetect.Proofs.Labels
import FrameDetect.Proofs.Url.Settings
import FrameDetect.Proofs.Url.Devices
import FrameDetect.Proofs.Json.Strings
import FrameDetect.Proofs.Json.Numbers
import FrameDetect.Proofs.Json.Grammar
import FrameDetect.Proofs.Tensor.Comparisons
