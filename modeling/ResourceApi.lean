import ResourceApi.Data.SortedMap
import ResourceApi.Text.Pieces
import ResourceApi.Text.Percent
import ResourceApi.Text.Quoted
import ResourceApi.Text.Percent.Encoding
import ResourceApi.Decimal.Shortest
import ResourceApi.Json.Printer
import ResourceApi.Json.Reader
import ResourceApi.Schema.Basic
import ResourceApi.Http.Body
import ResourceApi.Http.Headers
import ResourceApi.Http.Method
import ResourceApi.Http.Status
import ResourceApi.Http.Target
import ResourceApi.Query
import ResourceApi.Entity.Submitted
import ResourceApi.Fault.Refusal
import ResourceApi.Route.Mount
import ResourceApi.Catalogue
import ResourceApi.Document.Assembly
import ResourceApi.Api.Perform
import ResourceApi.Api.Respond
import ResourceApi.Registry.Description
import ResourceApi.Settings.Basic
import ResourceApi.Users.Store
import ResourceApi.Proofs.Document.Neighbourhood
import ResourceApi.Proofs.Document.Batch
import ResourceApi.Proofs.Api.Hooks
import ResourceApi.Proofs.Entity.Submitted
import ResourceApi.Proofs.Api.Responding
import ResourceApi.Proofs.Plan.Spending
import ResourceApi.Proofs.Api.Writes
import ResourceApi.Proofs.Api.Creation
import ResourceApi.Proofs.Api.Conversation
import ResourceApi.Proofs.Document.Unrelated
import ResourceApi.Proofs.Http.Headers
import ResourceApi.Proofs.Users.Directory
import ResourceApi.Proofs.Users.Operations
import ResourceApi.Proofs.Users.Listing
import ResourceApi.Proofs.Users.Refinement
import ResourceApi.Proofs.Users.Usernames
import ResourceApi.Proofs.Text.Pieces
import ResourceApi.Proofs.Text.Percent
import ResourceApi.Proofs.Http.Target
import ResourceApi.Proofs.Route.Addresses
import ResourceApi.Proofs.Plan.Parallel
import ResourceApi.Proofs.Document.Showing
import ResourceApi.Proofs.Document.Below
import ResourceApi.Proofs.Api.Mounting
import ResourceApi.Proofs.Api.Location
import ResourceApi.Proofs.Api.LinkPaths
import ResourceApi.Proofs.Api.Following
import ResourceApi.Proofs.Plan.Discretion
import ResourceApi.Proofs.Document.Discretion
import ResourceApi.Proofs.Registry.Twins
import ResourceApi.Proofs.Api.Discretion
import ResourceApi.Proofs.Http.Sending
import ResourceApi.Proofs.Json.Printer
import ResourceApi.Proofs.Api.Forms
import ResourceApi.Proofs.Api.Rejections
import ResourceApi.Proofs.Document.Texts
import ResourceApi.Proofs.Users.Removal
import ResourceApi.Proofs.Document.Rendering
import ResourceApi.Proofs.Api.Site
import ResourceApi.Proofs.Registry.Still
import ResourceApi.Proofs.Api.ReadBack
import ResourceApi.Proofs.Document.Resubmitting
import ResourceApi.Proofs.Json.Reader
import ResourceApi.Proofs.Api.Resubmission
import ResourceApi.Proofs.Document.Completeness
import ResourceApi.Proofs.Document.Relating
import ResourceApi.Proofs.Entity.Bodies
import ResourceApi.Proofs.Plan.History
import ResourceApi.Proofs.Document.Provenance
import ResourceApi.Proofs.Api.Isolation
import ResourceApi.Proofs.Text.Escaped
import ResourceApi.Proofs.Route.Grammar
import ResourceApi.Proofs.Route.Escaped
import ResourceApi.Proofs.Api.Stopgaps
import ResourceApi.Proofs.Api.Methods
import ResourceApi.Proofs.Query.Parameters
import ResourceApi.Proofs.Api.Telling
import ResourceApi.Proofs.Entity.Members
import ResourceApi.Proofs.Schema.Declarations
import ResourceApi.Proofs.Registry.Registration
import ResourceApi.Proofs.Route.Slashes
import ResourceApi.Proofs.Schema.Plurals
