import Backoffice.Assignment.Basic
import Backoffice.Assignment.Queue
import Backoffice.Assignment.Store
import Backoffice.Call
import Backoffice.Command.Bus
import Backoffice.Command.Exchange
import Backoffice.Config
import Backoffice.Config.Address
import Backoffice.Config.Load
import Backoffice.Content.Catalog
import Backoffice.Content.Records
import Backoffice.Content.Type
import Backoffice.Context
import Backoffice.Dashboard
import Backoffice.Dict
import Backoffice.Digest
import Backoffice.Fault
import Backoffice.Fault.Presenter
import Backoffice.Feature.Gate
import Backoffice.Feature.Scope
import Backoffice.Field
import Backoffice.Http.Assignments
import Backoffice.Http.Bodies
import Backoffice.Http.Form
import Backoffice.Http.General
import Backoffice.Http.Inbound
import Backoffice.Http.MediaType
import Backoffice.Http.Panels
import Backoffice.Http.Request
import Backoffice.Http.Router
import Backoffice.Http.Workflows
import Backoffice.Instant
import Backoffice.Json.Basic
import Backoffice.Json.Decode
import Backoffice.Json.Parser
import Backoffice.Json.Printer
import Backoffice.Json.Scan
import Backoffice.Json.Shape
import Backoffice.Menu
import Backoffice.Module
import Backoffice.Navigation
import Backoffice.Number.Binary64
import Backoffice.Number.Layout
import Backoffice.Number.Shortest
import Backoffice.Office.Basic
import Backoffice.Office.Load
import Backoffice.Panel.Action
import Backoffice.Panel.Basic
import Backoffice.Panel.Factory
import Backoffice.Panel.Operations
import Backoffice.Panel.Registry
import Backoffice.Panel.Site
import Backoffice.Permission
import Backoffice.Premises
import Backoffice.Proofs.Assignment.Answers
import Backoffice.Proofs.Assignment.Basic
import Backoffice.Proofs.Assignment.Bulk
import Backoffice.Proofs.Assignment.Codec
import Backoffice.Proofs.Assignment.Execution
import Backoffice.Proofs.Assignment.History
import Backoffice.Proofs.Assignment.Lifecycle
import Backoffice.Proofs.Assignment.Lineage
import Backoffice.Proofs.Assignment.OpenWork
import Backoffice.Proofs.Assignment.Ownership
import Backoffice.Proofs.Assignment.Performers
import Backoffice.Proofs.Assignment.Permanence
import Backoffice.Proofs.Assignment.Retries
import Backoffice.Proofs.Assignment.Rows
import Backoffice.Proofs.Assignment.Steps
import Backoffice.Proofs.Assignment.WellFormed
import Backoffice.Proofs.Command.Dispatch
import Backoffice.Proofs.Command.Registration
import Backoffice.Proofs.Content.Catalog
import Backoffice.Proofs.Dashboard
import Backoffice.Proofs.Ensures
import Backoffice.Proofs.Fault.Disclosure
import Backoffice.Proofs.Fault.Frames
import Backoffice.Proofs.Feature.Chain
import Backoffice.Proofs.Feature.Defaults
import Backoffice.Proofs.Feature.Gate
import Backoffice.Proofs.Field.Form
import Backoffice.Proofs.Field.Sets
import Backoffice.Proofs.Http.Callers
import Backoffice.Proofs.Http.Denial
import Backoffice.Proofs.Http.Effects
import Backoffice.Proofs.Http.Inbound
import Backoffice.Proofs.Http.Routing
import Backoffice.Proofs.Interleaving
import Backoffice.Proofs.Json.Decode
import Backoffice.Proofs.Json.Ordered
import Backoffice.Proofs.Menu
import Backoffice.Proofs.Menu.Identity
import Backoffice.Proofs.Menu.InMemory
import Backoffice.Proofs.Menu.Merging
import Backoffice.Proofs.Menu.Order
import Backoffice.Proofs.Module
import Backoffice.Proofs.Navigation
import Backoffice.Proofs.Number.Order
import Backoffice.Proofs.Office.Cancellation
import Backoffice.Proofs.Office.Fixtures
import Backoffice.Proofs.Office.Installation
import Backoffice.Proofs.Office.Load
import Backoffice.Proofs.Office.Reload
import Backoffice.Proofs.Office.Stores
import Backoffice.Proofs.Office.TypeWrites
import Backoffice.Proofs.Panel.Attainable
import Backoffice.Proofs.Panel.Commuting
import Backoffice.Proofs.Panel.Consultation
import Backoffice.Proofs.Panel.Creation
import Backoffice.Proofs.Panel.Driven
import Backoffice.Proofs.Panel.Entries
import Backoffice.Proofs.Panel.Factory
import Backoffice.Proofs.Panel.FailedCreation
import Backoffice.Proofs.Panel.Isolation
import Backoffice.Proofs.Panel.Mirror
import Backoffice.Proofs.Panel.Moves
import Backoffice.Proofs.Panel.Names
import Backoffice.Proofs.Panel.Operations
import Backoffice.Proofs.Panel.Relink
import Backoffice.Proofs.Panel.Relocation
import Backoffice.Proofs.Panel.Required
import Backoffice.Proofs.Panel.Search
import Backoffice.Proofs.Panel.Slugs
import Backoffice.Proofs.Panel.Steps
import Backoffice.Proofs.Panel.Transitions
import Backoffice.Proofs.Panel.Unregistering
import Backoffice.Proofs.Repository.Growth
import Backoffice.Proofs.Repository.Order
import Backoffice.Proofs.Repository.Pages
import Backoffice.Proofs.Repository.Sorting
import Backoffice.Proofs.Sorting
import Backoffice.Proofs.Text.Key
import Backoffice.Proofs.Workflow.ActiveBindings
import Backoffice.Proofs.Workflow.Atomicity
import Backoffice.Proofs.Workflow.Basic
import Backoffice.Proofs.Workflow.Determinism
import Backoffice.Proofs.Workflow.Effects
import Backoffice.Proofs.Workflow.Handover
import Backoffice.Proofs.Workflow.Policy
import Backoffice.Proofs.Workflow.References
import Backoffice.Proofs.Workflow.Resolution
import Backoffice.Proofs.Workflow.Revisions
import Backoffice.Proofs.Workflow.Rollback
import Backoffice.Proofs.Workflow.Steps
import Backoffice.Proofs.Workflow.Updates
import Backoffice.Proofs.Workflow.Written
import Backoffice.Record
import Backoffice.Repository
import Backoffice.Stores
import Backoffice.Supply
import Backoffice.Text.Blank
import Backoffice.Text.Case
import Backoffice.Text.CaseTable
import Backoffice.Text.Key
import Backoffice.Text.Utf8
import Backoffice.Version
import Backoffice.Workflow.Basic
import Backoffice.Workflow.Binding
import Backoffice.Workflow.Definition
import Backoffice.Workflow.Engine
import Backoffice.Workflow.Policy
import Backoffice.Workflow.Runtime
import Backoffice.Workflow.Store
