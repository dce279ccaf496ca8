import VoiceEngine.Handle
import VoiceEngine.Inspect
import VoiceEngine.Trace.Reader
import VoiceEngine.Proofs.History
import VoiceEngine.Proofs.Interleaving
import VoiceEngine.Proofs.Storage
import VoiceEngine.Proofs.Preparation
import VoiceEngine.Proofs.Passes
import VoiceEngine.Proofs.Refusals
import VoiceEngine.Proofs.Steps
import VoiceEngine.Proofs.Frames
import VoiceEngine.Proofs.Stored
import VoiceEngine.Proofs.Readiness
import VoiceEngine.Proofs.Bounds
import VoiceEngine.Proofs.Accesses
import VoiceEngine.Proofs.Safety
import VoiceEngine.Proofs.Staleness
import VoiceEngine.Proofs.Indistinct
import VoiceEngine.Proofs.Erasure
import VoiceEngine.Proofs.Delivery
import VoiceEngine.Proofs.Records
import VoiceEngine.Proofs.Parsing
import VoiceEngine.Proofs.Recording
import VoiceEngine.Proofs.Streaming
import VoiceEngine.Proofs.Headroom
import VoiceEngine.Proofs.SplitFeedback
import VoiceEngine.Proofs.AliasCancellation
import VoiceEngine.Proofs.Downmix
import VoiceEngine.Proofs.SideBySide
import VoiceEngine.Proofs.Schedules
import VoiceEngine.Proofs.Rejections
import VoiceEngine.Proofs.FailingSinks
import VoiceEngine.Proofs.Openings
import VoiceEngine.Proofs.Arrival
import VoiceEngine.Proofs.StageReports
import VoiceEngine.Proofs.Reports
import VoiceEngine.Proofs.Transparency
import VoiceEngine.Proofs.Handles
import VoiceEngine.Proofs.Settling
import VoiceEngine.Proofs.DcRemoval
import VoiceEngine.Proofs.FarEndHistory
import VoiceEngine.Proofs.FarEndWindows
import VoiceEngine.Proofs.InUse
import VoiceEngine.Proofs.FreshFrames
import VoiceEngine.Proofs.VoiceWindows
import VoiceEngine.Proofs.OutsideDecisions
import VoiceEngine.Proofs.MeasuredInput
import VoiceEngine.Proofs.Rounding
import VoiceEngine.Proofs.ScalarNumbers
import VoiceEngine.Proofs.GainMotion
import VoiceEngine.Proofs.GainBound
import VoiceEngine.Proofs.FilterHeadroom
import VoiceEngine.Proofs.VersionLines
import VoiceEngine.Proofs.Deinterleaving
import VoiceEngine.Proofs.LevelSums
import VoiceEngine.Proofs.LevelSteps
import VoiceEngine.Proofs.LevelAccounts
