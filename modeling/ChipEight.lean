import ChipEight.Files.Tree
import ChipEight.Main
import ChipEight.Memory.Slice
import ChipEight.Proofs.BoundedList
import ChipEight.Proofs.Calls
import ChipEight.Proofs.Carry
import ChipEight.Proofs.Conclusion
import ChipEight.Proofs.Drawing
import ChipEight.Proofs.Faults
import ChipEight.Proofs.Finality
import ChipEight.Proofs.Footprint
import ChipEight.Proofs.Gallery
import ChipEight.Proofs.Lettering
import ChipEight.Proofs.Lifecycle
import ChipEight.Proofs.Lockstep
import ChipEight.Proofs.Masks
import ChipEight.Proofs.Overdrawing
import ChipEight.Proofs.Overlays
import ChipEight.Proofs.Picture
import ChipEight.Proofs.Polling
import ChipEight.Proofs.Refreshing
import ChipEight.Proofs.Rendering
import ChipEight.Proofs.Replay
import ChipEight.Proofs.Restart
import ChipEight.Proofs.Rounds
import ChipEight.Proofs.Stores
import ChipEight.Proofs.StraightLine
import ChipEight.Proofs.Timers
import ChipEight.Proofs.Tracing
import ChipEight.Proofs.Transfer
import ChipEight.Proofs.Writes
