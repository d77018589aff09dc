import TrustBoundary.Main
import TrustBoundary.Mbr.InPlace
import TrustBoundary.Migration.InPlace
import TrustBoundary.QubeName
import TrustBoundary.Transfer.Session
import TrustBoundary.Proofs.Bytes.Parts
import TrustBoundary.Proofs.Bytes.Lossless
import TrustBoundary.Proofs.Bytes.Records
import TrustBoundary.Proofs.Disk.Content
import TrustBoundary.Proofs.Device.Runs
import TrustBoundary.Proofs.Device.Attempts
import TrustBoundary.Proofs.Mbr.Checked
import TrustBoundary.Proofs.Mbr.Content
import TrustBoundary.Proofs.Mbr.InPlace
import TrustBoundary.Proofs.Gpt.Slots
import TrustBoundary.Proofs.Gpt.Acceptance
import TrustBoundary.Proofs.Gpt.Refusal
import TrustBoundary.Proofs.Gpt.Stored
import TrustBoundary.Proofs.Gpt.Partitions
import TrustBoundary.Proofs.Gpt.Sealed
import TrustBoundary.Proofs.Gpt.Derailment
import TrustBoundary.Proofs.Gpt.Fresh
import TrustBoundary.Proofs.Inspection.Search
import TrustBoundary.Proofs.Inspection.Derailment
import TrustBoundary.Proofs.Migration.Extents
import TrustBoundary.Proofs.Migration.Recounted
import TrustBoundary.Proofs.Migration.Rebuilt
import TrustBoundary.Proofs.Migration.Accepted
import TrustBoundary.Proofs.Migration.Placement
import TrustBoundary.Proofs.Migration.Installation
import TrustBoundary.Proofs.Migration.Steps
import TrustBoundary.Proofs.Migration.Interruption
import TrustBoundary.Proofs.Migration.InPlace
import TrustBoundary.Proofs.Migration.Retries
import TrustBoundary.Proofs.Migration.Partitions
import TrustBoundary.Proofs.Migration.Completion
import TrustBoundary.Proofs.Gpt.Disguise
import TrustBoundary.Proofs.Migration.Leftovers
import TrustBoundary.Proofs.Migration.Feasibility
import TrustBoundary.Proofs.Migration.AllOrNothing
import TrustBoundary.Proofs.Migration.Reversal
import TrustBoundary.Proofs.Migration.RoundTrip
import TrustBoundary.Proofs.Migration.Kept
import TrustBoundary.Proofs.Migration.Optimum
import TrustBoundary.Proofs.Checksum.Linear
import TrustBoundary.Proofs.Gpt.Checksums
import TrustBoundary.Proofs.Gpt.Damage
import TrustBoundary.Proofs.Inspection.Damage
import TrustBoundary.Proofs.Gpt.Soundness
import TrustBoundary.Proofs.Text.Display
import TrustBoundary.Proofs.Text.Decoding
import TrustBoundary.Proofs.Text.SafeText
import TrustBoundary.Proofs.Path.Grammar
import TrustBoundary.Proofs.Path.Resolution
import TrustBoundary.Proofs.Path.Splitting
import TrustBoundary.Proofs.Path.Acceptance
import TrustBoundary.Proofs.Path.Relaxation
import TrustBoundary.Proofs.Path.Characters
import TrustBoundary.Proofs.Text.DisplaySafe
import TrustBoundary.Proofs.Transfer.Accounting
import TrustBoundary.Proofs.Transfer.Limits
