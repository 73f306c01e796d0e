import ObjectStore.Folder
import ObjectStore.Main
import ObjectStore.Proofs.Listing.Chunkwise
import ObjectStore.Proofs.IdentityHeaders
import ObjectStore.Proofs.Upload.Interleaving
import ObjectStore.Proofs.Upload.Sequential
import ObjectStore.Proofs.Listing.Complete
import ObjectStore.Proofs.Upload.Abortion
import ObjectStore.Proofs.Xml.Layout
import ObjectStore.Proofs.Xml.Visitor
import ObjectStore.Proofs.Listing.ObjectKeys
import ObjectStore.Proofs.Listing.Retries
import ObjectStore.Proofs.Bucket.Lifecycle
import ObjectStore.Proofs.Command.Removal
import ObjectStore.Proofs.Xml.Content
import ObjectStore.Proofs.Targets
import ObjectStore.Proofs.Listing.Ending
import ObjectStore.Proofs.Listing.VersionEntries
import ObjectStore.Proofs.Sending
import ObjectStore.Proofs.Bucket.Notification
import ObjectStore.Proofs.Object.Deletion
import ObjectStore.Proofs.EncodedPath
import ObjectStore.Proofs.Listing.Advance
import ObjectStore.Proofs.Listing.Followable
import ObjectStore.Proofs.Upload.Manifest
import ObjectStore.Proofs.QueryReading
import ObjectStore.Proofs.Listing.UploadEntries
import ObjectStore.Proofs.Upload.EntityTags
import ObjectStore.Proofs.Upload.PartHeaders
import ObjectStore.Proofs.Object.CopySource
import ObjectStore.Proofs.Object.DeletionResult
import ObjectStore.Proofs.Upload.TagCycle
import ObjectStore.Proofs.Command.ForcedRemoval
import ObjectStore.Proofs.Encoders
import ObjectStore.Proofs.Xml.Traversal
import ObjectStore.Proofs.Command.Sizes
import ObjectStore.Proofs.Command.Paths
