import Wheelhouse.Main
import Wheelhouse.Store.Client
import Wheelhouse.Proofs.Cache.History
import Wheelhouse.Proofs.Pin.Run
import Wheelhouse.Proofs.Filter.Validation
import Wheelhouse.Proofs.Site.Generations
import Wheelhouse.Proofs.Site.Listing
import Wheelhouse.Proofs.Store.Confinement
import Wheelhouse.Proofs.Package.Series
import Wheelhouse.Proofs.Cache.Containment
import Wheelhouse.Proofs.Package.FileName
import Wheelhouse.Proofs.Pin.Contribution
import Wheelhouse.Proofs.Pin.Provenance
import Wheelhouse.Proofs.Publish.Report
import Wheelhouse.Proofs.Cache.Key
import Wheelhouse.Proofs.Filter.InTurn
import Wheelhouse.Proofs.Publish.Separation
import Wheelhouse.Proofs.Site.Preservation
import Wheelhouse.Proofs.Organize.Placement
import Wheelhouse.Proofs.Store.Contents
import Wheelhouse.Proofs.Cache.Reserved
import Wheelhouse.Proofs.Filter.Declarations
import Wheelhouse.Proofs.Pin.LineEnds
import Wheelhouse.Proofs.Organize.Partition
import Wheelhouse.Proofs.Settings.Concurrency
import Wheelhouse.Proofs.Pin.Recognition
import Wheelhouse.Proofs.Cache.Isolation
import Wheelhouse.Proofs.Publish.Levels
import Wheelhouse.Proofs.Store.Key
import Wheelhouse.Proofs.Package.Pieces
import Wheelhouse.Proofs.Disk.Enumeration
import Wheelhouse.Proofs.Organize.ReleaseTag
