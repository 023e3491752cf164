import Embedding.Main
import Embedding.Proofs.AllOrNothing
import Embedding.Proofs.Arrays
import Embedding.Proofs.Borrows
import Embedding.Proofs.Callbacks
import Embedding.Proofs.Circles
import Embedding.Proofs.Configs
import Embedding.Proofs.Correspondence
import Embedding.Proofs.Dates
import Embedding.Proofs.Dispatch
import Embedding.Proofs.Elements
import Embedding.Proofs.Enclosed
import Embedding.Proofs.Exclusive
import Embedding.Proofs.Files
import Embedding.Proofs.Forms
import Embedding.Proofs.Handlers
import Embedding.Proofs.Lifecycle
import Embedding.Proofs.NewObjects
import Embedding.Proofs.OfNative
import Embedding.Proofs.OpenContexts
import Embedding.Proofs.Outputs
import Embedding.Proofs.Ranges
import Embedding.Proofs.Registrations
import Embedding.Proofs.ReleasedContexts
import Embedding.Proofs.RoundTrip
import Embedding.Proofs.Rows
import Embedding.Proofs.Scans
import Embedding.Proofs.Siblings
import Embedding.Proofs.Snapshots
import Embedding.Proofs.Staleness
import Embedding.Proofs.StrandedContexts
import Embedding.Proofs.ToNative
import Embedding.Proofs.Unmoved
import Embedding.Proofs.Views
import Embedding.Proofs.Visits
import Embedding.Proofs.World
import Embedding.Session.Run
