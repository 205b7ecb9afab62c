import Switchboard.Catalog.Basic
import Switchboard.Catalog.Build
import Switchboard.CommandLine.Arguments
import Switchboard.CommandLine.Echo
import Switchboard.CommandLine.Run
import Switchboard.Criteria
import Switchboard.DataSource
import Switchboard.Decimal.Binary64
import Switchboard.Decimal.Literal
import Switchboard.Decimal.Shortest
import Switchboard.Dispatch.Connection
import Switchboard.Dispatch.Handler
import Switchboard.Dispatch.Object
import Switchboard.Dispatch.Route
import Switchboard.Dispatch.ServerObject
import Switchboard.Dispatch.TypeRegister
import Switchboard.Dispatch.TypeTable
import Switchboard.Json.Basic
import Switchboard.Json.Document
import Switchboard.Json.Layout
import Switchboard.Json.Printer
import Switchboard.Json.Token
import Switchboard.Json.Value
import Switchboard.Main
import Switchboard.Names
import Switchboard.Operation
import Switchboard.Query.Binding
import Switchboard.Query.Plan
import Switchboard.Query.Template
import Switchboard.Registry.Basic
import Switchboard.Registry.Published
import Switchboard.Relations.Basic
import Switchboard.Relations.Derivation
import Switchboard.Request
import Switchboard.Response
import Switchboard.Text.Blank
import Switchboard.Text.Extending
import Switchboard.Text.Quoted
import Switchboard.Text.Ranges
import Switchboard.Text.Split
import Switchboard.Text.Unassigned
import Switchboard.Toml.Document
import Switchboard.Toml.Scalar
import Switchboard.Toml.Table
import Switchboard.Proofs.Attempts
import Switchboard.Proofs.Folds
import Switchboard.Proofs.Query.Scanning
import Switchboard.Proofs.Query.Substituting
import Switchboard.Proofs.Query.Reading
import Switchboard.Proofs.Query.Escaping
import Switchboard.Proofs.Query.Composing
import Switchboard.Proofs.Query.Choosing
import Switchboard.Proofs.Query.Planning
import Switchboard.Proofs.Dispatch.NameIndex
import Switchboard.Proofs.Dispatch.Receivers
import Switchboard.Proofs.Dispatch.Registrations
import Switchboard.Proofs.Dispatch.Reordering
import Switchboard.Proofs.Dispatch.Watching
import Switchboard.Proofs.Dispatch.Sessions
import Switchboard.Proofs.Dispatch.LifeCycle
import Switchboard.Proofs.Dispatch.Resolution
import Switchboard.Proofs.Dispatch.Delegation
import Switchboard.Proofs.Registry.Extension
import Switchboard.Proofs.Registry.History
import Switchboard.Proofs.Registry.Bearers
import Switchboard.Proofs.Registry.Preview
import Switchboard.Proofs.Catalog.Building
import Switchboard.Proofs.Catalog.Layers
import Switchboard.Proofs.Relations.Derived
import Switchboard.Proofs.Registry.Order
import Switchboard.Proofs.Registry.Batching
import Switchboard.Proofs.Registry.Integrity
import Switchboard.Proofs.Registry.Coherence
import Switchboard.Proofs.Registry.Publication
import Switchboard.Proofs.Json.Members
import Switchboard.Proofs.Criteria.Nodes
import Switchboard.Proofs.Criteria.Normal
import Switchboard.Proofs.Criteria.RoundTrip
import Switchboard.Proofs.Catalog.Sections
import Switchboard.Proofs.Criteria.Acceptance
import Switchboard.Proofs.Criteria.Repeated
import Switchboard.Proofs.Criteria.Values
import Switchboard.Proofs.Query.Disclosure
import Switchboard.Proofs.Registry.Metadata
import Switchboard.Proofs.Catalog.Skipping
import Switchboard.Proofs.Relations.Outcomes
import Switchboard.Proofs.Catalog.Outcomes
import Switchboard.Proofs.CommandLine.Output
import Switchboard.Proofs.Json.Layouts
import Switchboard.Proofs.Json.Restoring
import Switchboard.Proofs.WireForms
import Switchboard.Proofs.Relations.FieldOrder
import Switchboard.Proofs.Relations.References
import Switchboard.Proofs.Registry.Repetition
import Switchboard.Proofs.Catalog.Normalizing
