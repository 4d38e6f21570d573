import DualPlaneVideo.Proofs.Decoder.FailedLine
import DualPlaneVideo.Proofs.Decoder.Isolation
import DualPlaneVideo.Proofs.Decoder.Mosaic
import DualPlaneVideo.Proofs.VideoUnit.Cadence
import DualPlaneVideo.Proofs.VideoUnit.Consistent
import DualPlaneVideo.Settings.Arguments
import DualPlaneVideo.Settings.Document
import DualPlaneVideo.Proofs.Compositing
import DualPlaneVideo.Proofs.Word
import DualPlaneVideo.Proofs.Decoder.HiddenPlane
import DualPlaneVideo.Proofs.Decoder.InterruptStatus
import DualPlaneVideo.Proofs.VideoUnit.Reset
import DualPlaneVideo.Proofs.Decoder.PaletteHalves
import DualPlaneVideo.Proofs.VideoUnit.RegisterWidths
import DualPlaneVideo.Proofs.Decoder.StoredLoads
import DualPlaneVideo.Proofs.Arithmetic.VideoUnit
import DualPlaneVideo.Proofs.Line.RunUnits
import DualPlaneVideo.Proofs.Decoder.RejectedLine
import DualPlaneVideo.Proofs.Decoder.ScreenWidth
import DualPlaneVideo.Proofs.VideoUnit.StrictPolicy
import DualPlaneVideo.Proofs.Matte.ScheduledLine
import DualPlaneVideo.Proofs.Line.PrefixSums
import DualPlaneVideo.Proofs.Decoder.CursorBlink
import DualPlaneVideo.Proofs.Decoder.CursorPixels
import DualPlaneVideo.Proofs.ControlProgram.Budget
import DualPlaneVideo.Proofs.Decoder.BusWrites
import DualPlaneVideo.Proofs.VideoRam.BlockCopy
import DualPlaneVideo.Proofs.VideoRam.LoadedBlock
import DualPlaneVideo.Proofs.VideoUnit.ReadCursors
import DualPlaneVideo.Proofs.Transparency
import DualPlaneVideo.Proofs.Compositing.Brightness
import DualPlaneVideo.Proofs.Grid.LastWritten
