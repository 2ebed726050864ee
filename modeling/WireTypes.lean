import WireTypes.Logging
import WireTypes.Program
import WireTypes.Main
import WireTypes.Proofs.Catalog.Declared
import WireTypes.Proofs.Graph.Members
import WireTypes.Proofs.Graph.Closure
import WireTypes.Proofs.Graph.Base
import WireTypes.Proofs.Output.Naming
import WireTypes.Proofs.Output.Shown
import WireTypes.Proofs.Disk.Changes
import WireTypes.Proofs.Output.References
import WireTypes.Proofs.Generation.Frame
import WireTypes.Proofs.TypeRef.Grammar
import WireTypes.Proofs.TypeRef.Parse
import WireTypes.Proofs.TypeRef.RoundTrip
import WireTypes.Proofs.Catalog.Repeated
import WireTypes.Proofs.Graph.Repeated
import WireTypes.Proofs.Disk.Entries
import WireTypes.Proofs.Generation.Destination
import WireTypes.Proofs.Catalog.Siblings
import WireTypes.Proofs.Output.Assignment
import WireTypes.Proofs.Catalog.Loaded
import WireTypes.Proofs.Catalog.Unreadable
import WireTypes.Proofs.Catalog.Modules
import WireTypes.Proofs.Catalog.SameTypes
import WireTypes.Proofs.Graph.Outline
import WireTypes.Proofs.Graph.Unreached
import WireTypes.Proofs.Graph.Alike
import WireTypes.Proofs.Graph.Marked
import WireTypes.Proofs.Graph.Reordered
import WireTypes.Proofs.Generation.Ignored
import WireTypes.Proofs.Generation.Rerun
import WireTypes.Proofs.Graph.Additive
import WireTypes.Proofs.Document.Json
import WireTypes.Proofs.Options.Agreement
import WireTypes.Proofs.Output.Identifiers
import WireTypes.Proofs.Generation.Inputs
import WireTypes.Proofs.Generation.Failure
import WireTypes.Proofs.Generation.Overview
import WireTypes.Proofs.Document.Records
import WireTypes.Proofs.Metadata.Encoding
import WireTypes.Proofs.Collection.BreadthFirst
import WireTypes.Proofs.Catalog.Ancestors
import WireTypes.Proofs.Catalog.Appended
import WireTypes.Proofs.Graph.Declared
import WireTypes.Proofs.Output.Requests
import WireTypes.Proofs.Output.Written
import WireTypes.Proofs.Graph.Locality
import WireTypes.Proofs.TypeRef.Names
import WireTypes.Proofs.TypeRef.Generic
import WireTypes.Proofs.Catalog.Arity
import WireTypes.Proofs.TypeRef.Rejected
import WireTypes.Proofs.TypeRef.Printed
import WireTypes.Proofs.TypeRef.Spaced
import WireTypes.Proofs.Text.Sigma
import WireTypes.Proofs.Text.Slashes
import WireTypes.Proofs.Output.FileNames
import WireTypes.Proofs.Output.Members
import WireTypes.Proofs.Output.Urls
