import ImageCatalog.Capture
import ImageCatalog.Catalog
import ImageCatalog.Catalog.Directory
import ImageCatalog.Cli.Command
import ImageCatalog.Cli.Parse
import ImageCatalog.Cli.Program
import ImageCatalog.Cli.Run
import ImageCatalog.Cli.Suggest
import ImageCatalog.Cli.Wrap
import ImageCatalog.Config.File
import ImageCatalog.Config.Settings
import ImageCatalog.Config.Value
import ImageCatalog.Connection
import ImageCatalog.Document
import ImageCatalog.Fault
import ImageCatalog.Filter
import ImageCatalog.Image
import ImageCatalog.Listing
import ImageCatalog.Main
import ImageCatalog.Network
import ImageCatalog.Pattern.Classes
import ImageCatalog.Pattern.Fold
import ImageCatalog.Pattern.Match
import ImageCatalog.Pattern.Parse
import ImageCatalog.Pattern.Syntax
import ImageCatalog.Platform
import ImageCatalog.Publish
import ImageCatalog.Redact
import ImageCatalog.Remote.Client
import ImageCatalog.Remote.Script
import ImageCatalog.Remote.World
import ImageCatalog.Support
import ImageCatalog.Template.Loader
import ImageCatalog.Text.Blank
import ImageCatalog.Text.Case
import ImageCatalog.Text.Cased
import ImageCatalog.Text.Decimal
import ImageCatalog.Text.Digit
import ImageCatalog.Text.Integer
import ImageCatalog.Text.LowerMap
import ImageCatalog.Text.Printable
import ImageCatalog.Text.Quote
import ImageCatalog.Text.Range
import ImageCatalog.Text.Search
import ImageCatalog.Text.Word
import ImageCatalog.Time.Calendar
import ImageCatalog.Time.Display
import ImageCatalog.Time.Iso
import ImageCatalog.Toml.Editor
import ImageCatalog.Toml.Layout.Edit
import ImageCatalog.Toml.Layout.Scalar
import ImageCatalog.Toml.Layout.Scan
import ImageCatalog.Toml.Layout.Sheet
import ImageCatalog.Toml.Reader
import ImageCatalog.Toml.Text
import ImageCatalog.Workload
import ImageCatalog.Workload.Power
import ImageCatalog.Xml.Element
import ImageCatalog.Xml.Name
import ImageCatalog.Xml.NameTable
import ImageCatalog.Xml.NameChar
import ImageCatalog.Xml.Query
import ImageCatalog.Xml.ReadError
import ImageCatalog.Xml.Reader
import ImageCatalog.Xml.Scan
import ImageCatalog.Xml.Writer
import ImageCatalog.Proofs.Capture.ServiceLog
import ImageCatalog.Proofs.Capture.Redeploy
import ImageCatalog.Proofs.Document.Respelling
import ImageCatalog.Proofs.Remote.Respelling
import ImageCatalog.Proofs.Remote.Readers
import ImageCatalog.Proofs.Cache.Entries
import ImageCatalog.Proofs.Cache.History
import ImageCatalog.Proofs.Cache.Isolation
import ImageCatalog.Proofs.Remote.Secrets
import ImageCatalog.Proofs.Remote.Reads
import ImageCatalog.Proofs.Image.Tags
import ImageCatalog.Proofs.Support.Removal
import ImageCatalog.Proofs.Capture.Retry
import ImageCatalog.Proofs.Listing.ImageLists
import ImageCatalog.Proofs.Remote.Deadline
import ImageCatalog.Proofs.Capture.Settle
import ImageCatalog.Proofs.Remote.TaskWait
import ImageCatalog.Proofs.Template.Loading
import ImageCatalog.Proofs.Capture.Paths
import ImageCatalog.Proofs.Capture.Stages
import ImageCatalog.Proofs.Remote.Served
import ImageCatalog.Proofs.Template.Sections
import ImageCatalog.Proofs.Template.Derived
import ImageCatalog.Proofs.Template.Items
import ImageCatalog.Proofs.Catalog.Listing
import ImageCatalog.Proofs.Remote.Addresses
import ImageCatalog.Proofs.Time.Timestamps
import ImageCatalog.Proofs.Catalog.Publishing
import ImageCatalog.Proofs.Toml.Scalars
import ImageCatalog.Proofs.Toml.Lines
import ImageCatalog.Proofs.Toml.Editors
import ImageCatalog.Proofs.Config.Saving
import ImageCatalog.Proofs.Network.Primary
import ImageCatalog.Proofs.Xml.PlainNames
import ImageCatalog.Proofs.Document.Lookups
import ImageCatalog.Proofs.Xml.ReadBack
import ImageCatalog.Proofs.Remote.RequestBodies
import ImageCatalog.Proofs.Pattern.Machine
import ImageCatalog.Proofs.Text.Integers
import ImageCatalog.Proofs.Config.Overrides
import ImageCatalog.Proofs.Redact.Compiled
import ImageCatalog.Proofs.Redact.Keys
import ImageCatalog.Proofs.Redact.Attempts
import ImageCatalog.Proofs.Redact.Scan
import ImageCatalog.Proofs.Redact.Overlap
import ImageCatalog.Proofs.Redact.Clean
import ImageCatalog.Proofs.Redact.Redacted
