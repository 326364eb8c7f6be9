import Cabinet.Path.Update
import Cabinet.Pattern.Parser
import Cabinet.Schema.Check
import Cabinet.Binder.Shape
import Cabinet.Storage.NativePath
import Cabinet.Storage.Metadata
import Cabinet.Storage.Change
import Cabinet.Registry.Basic
import Cabinet.Storage.Inventory
import Cabinet.Storage.Handle
import Cabinet.Proofs.Path.Addressing
import Cabinet.Proofs.Path.Atomicity
import Cabinet.Proofs.Path.Deletion
import Cabinet.Proofs.Path.ReadBack
import Cabinet.Proofs.Path.DocumentOrder
import Cabinet.Proofs.Path.RoundTrip
import Cabinet.Proofs.Json.Unambiguous
import Cabinet.Proofs.Schema.Locality
import Cabinet.Proofs.Schema.Places
import Cabinet.Proofs.Schema.Verdict
import Cabinet.Proofs.Document.Equality
import Cabinet.Proofs.Document.History
import Cabinet.Proofs.Document.Ranges
import Cabinet.Proofs.Properties.Shape
import Cabinet.Proofs.Properties.Spelling
import Cabinet.Proofs.Properties.Growth
import Cabinet.Proofs.Properties.RoundTrip
import Cabinet.Proofs.Storage.PathOrder
import Cabinet.Proofs.Storage.Resolution
import Cabinet.Proofs.Storage.Entries
import Cabinet.Proofs.Storage.Tree
import Cabinet.Proofs.Storage.Action
import Cabinet.Proofs.Storage.Delivery
import Cabinet.Proofs.Storage.Memory
import Cabinet.Proofs.Storage.Writing
import Cabinet.Proofs.Storage.Clean
import Cabinet.Proofs.Storage.Frame
import Cabinet.Proofs.Storage.Requests
import Cabinet.Proofs.Storage.AllOrNothing
import Cabinet.Proofs.Storage.Confined
import Cabinet.Proofs.Storage.Contents
import Cabinet.Proofs.Storage.Listing
import Cabinet.Proofs.Storage.Failing
import Cabinet.Proofs.Storage.Copying
import Cabinet.Proofs.Storage.Overlay
import Cabinet.Proofs.Storage.Snapshot
import Cabinet.Proofs.Storage.Depth
import Cabinet.Proofs.Storage.Ending
import Cabinet.Proofs.Storage.Endless
import Cabinet.Proofs.Storage.Operations
import Cabinet.Proofs.Storage.Writers
import Cabinet.Proofs.Storage.Describing
import Cabinet.Proofs.Storage.Remembering
import Cabinet.Proofs.Storage.Heeding
import Cabinet.Proofs.Storage.Caching
import Cabinet.Proofs.Storage.Moving
import Cabinet.Proofs.Storage.Walking
import Cabinet.Proofs.Storage.Inquiry
import Cabinet.Proofs.Storage.Hiding
import Cabinet.Proofs.Storage.Sessionless
import Cabinet.Proofs.Storage.Overlooking
import Cabinet.Proofs.Storage.Closing
import Cabinet.Proofs.Storage.FailedMoves
import Cabinet.Proofs.Storage.CompleteListings
import Cabinet.Proofs.Storage.NativePath
import Cabinet.Proofs.Storage.PathAlgebra
import Cabinet.Proofs.Storage.Subtree
import Cabinet.Proofs.Pattern.Anchoring
