import DebugMerge.Binary.Take
import DebugMerge.Cancellation
import DebugMerge.Command.Listing
import DebugMerge.Command.Load
import DebugMerge.Command.Logging
import DebugMerge.Command.Options
import DebugMerge.Command.Program
import DebugMerge.Command.Reach
import DebugMerge.Command.Reports
import DebugMerge.Command.Request
import DebugMerge.Command.Run
import DebugMerge.Command.Session
import DebugMerge.Diagnostics
import DebugMerge.Dump.Document
import DebugMerge.Dump.Script
import DebugMerge.Dump.Tool
import DebugMerge.Files.Path
import DebugMerge.Files.Tree
import DebugMerge.Hash.Sha256
import DebugMerge.Identity.Basic
import DebugMerge.Json.Merge
import DebugMerge.Json.Reader
import DebugMerge.Json.Shape
import DebugMerge.Json.Value
import DebugMerge.Json.Writer
import DebugMerge.Load.Apply
import DebugMerge.Load.Backend
import DebugMerge.Load.Decorate
import DebugMerge.Load.Error
import DebugMerge.Load.Overlay
import DebugMerge.Load.Run
import DebugMerge.Load.Settings
import DebugMerge.Main
import DebugMerge.Mangling.Basic
import DebugMerge.Mangling.Decorated
import DebugMerge.Mangling.Nested
import DebugMerge.Mangling.Path
import DebugMerge.Mangling.Punycode
import DebugMerge.Pdb.AddressMap
import DebugMerge.Pdb.Container
import DebugMerge.Pdb.Directory
import DebugMerge.Pdb.Reader
import DebugMerge.Pdb.Symbols
import DebugMerge.Pdb.TypeData
import DebugMerge.Pdb.TypeTable
import DebugMerge.Pe.Image
import DebugMerge.Pe.Import
import DebugMerge.Program.Info
import DebugMerge.Program.Memory
import DebugMerge.Project.Config
import DebugMerge.Project.Layout
import DebugMerge.Project.Open
import DebugMerge.Records.Basic
import DebugMerge.Records.Format
import DebugMerge.Slot
import DebugMerge.Slot.Work
import DebugMerge.Store.Archive
import DebugMerge.Store.Database
import DebugMerge.Store.Format
import DebugMerge.Store.Readers
import DebugMerge.Store.Schema
import DebugMerge.Store.Statement
import DebugMerge.Store.Transaction
import DebugMerge.Text.Blank
import DebugMerge.Text.LowerCase
import DebugMerge.Text.Numeral
import DebugMerge.Text.Printable
import DebugMerge.Text.Utf8
import DebugMerge.Yaml.Cursor
import DebugMerge.Yaml.Node
import DebugMerge.Yaml.Reader
import DebugMerge.Yaml.Scalar
import DebugMerge.Proofs.Json.RoundTrip
import DebugMerge.Proofs.Records.RoundTrip
import DebugMerge.Proofs.Store.DataTypes
import DebugMerge.Proofs.Folds
import DebugMerge.Proofs.Load.Atomicity
import DebugMerge.Proofs.Store.Tables
import DebugMerge.Proofs.Load.Merging
import DebugMerge.Proofs.Load.Confluence
import DebugMerge.Proofs.Load.Decoration
import DebugMerge.Proofs.Load.Effect
import DebugMerge.Proofs.Load.Resume
import DebugMerge.Proofs.Pdb.FieldLists
import DebugMerge.Proofs.Load.Coverage
import DebugMerge.Proofs.Load.Gate
import DebugMerge.Proofs.Store.Contents
import DebugMerge.Proofs.Load.Contents
import DebugMerge.Proofs.Load.Offers
import DebugMerge.Proofs.Load.Tally
import DebugMerge.Proofs.Load.Undisturbed
import DebugMerge.Proofs.Load.Repetition
import DebugMerge.Proofs.Load.Retention
import DebugMerge.Proofs.Load.Backends
import DebugMerge.Proofs.Load.Layouts
import DebugMerge.Proofs.Binary.Yields
import DebugMerge.Proofs.Load.Growth
import DebugMerge.Proofs.Store.Versions
import DebugMerge.Proofs.Identity.Agreement
import DebugMerge.Proofs.Load.History
import DebugMerge.Proofs.Store.Migration
import DebugMerge.Proofs.Command.FailedProject
import DebugMerge.Proofs.Load.Messages
import DebugMerge.Proofs.Json.Mapping
import DebugMerge.Proofs.Json.Merging
import DebugMerge.Proofs.Load.Precedence
import DebugMerge.Proofs.Records.Spelling
import DebugMerge.Proofs.Dump.RoundTrip
import DebugMerge.Proofs.Reachable.Operations
import DebugMerge.Proofs.Reachable.Readers
import DebugMerge.Proofs.Reachable.Values
import DebugMerge.Proofs.Json.Indented
import DebugMerge.Proofs.Project.Persistence
import DebugMerge.Proofs.Project.Roots
import DebugMerge.Proofs.Command.Reopening
import DebugMerge.Proofs.Slot.Turns
import DebugMerge.Proofs.Load.Prefix
import DebugMerge.Proofs.Load.Restriction
import DebugMerge.Proofs.Load.Counters
import DebugMerge.Proofs.Load.Confinement
import DebugMerge.Proofs.Load.Alone
import DebugMerge.Proofs.Reachable.Listings
import DebugMerge.Proofs.Load.Visits
import DebugMerge.Proofs.Pdb.Extraction
import DebugMerge.Proofs.Load.Interruption
import DebugMerge.Proofs.Pe.Placement
import DebugMerge.Proofs.Program.Spelling
import DebugMerge.Proofs.Binary.Locality
import DebugMerge.Proofs.Pdb.Entries
import DebugMerge.Proofs.Pdb.Continuations
import DebugMerge.Proofs.Pdb.TypeNames
import DebugMerge.Proofs.Command.SavedReports
