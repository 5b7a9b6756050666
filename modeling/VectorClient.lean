import VectorClient.Client.Connect
import VectorClient.Client.Session
import VectorClient.Failure
import VectorClient.Request.Catalog
import VectorClient.Result.RpcError
import VectorClient.Wait.Poll
import VectorClient.Proofs.Client.Ledger
import VectorClient.Proofs.Client.Cut
import VectorClient.Proofs.Client.Closing
import VectorClient.Proofs.Client.Flushing
import VectorClient.Proofs.Number.Bits
import VectorClient.Proofs.Wire.Messages
import VectorClient.Proofs.Param.Accepted
import VectorClient.Proofs.Request.Insertion
import VectorClient.Proofs.Request.Search
import VectorClient.Proofs.Request.Schema
import VectorClient.Proofs.Number.Nearest
import VectorClient.Proofs.Client.Watching
import VectorClient.Proofs.Client.Loading
import VectorClient.Proofs.Client.Indexing
import VectorClient.Proofs.Form.Aborts
import VectorClient.Proofs.Param.Aborts
import VectorClient.Proofs.Request.Fitting
import VectorClient.Proofs.Client.Passing
import VectorClient.Proofs.Client.AtOnce
import VectorClient.Proofs.Client.Issuing
import VectorClient.Proofs.Client.Returning
import VectorClient.Proofs.Client.Extending
import VectorClient.Proofs.Request.Components
import VectorClient.Proofs.Request.Distance
import VectorClient.Proofs.Client.Listing
import VectorClient.Proofs.Request.Unique
import VectorClient.Proofs.Client.Shapes
import VectorClient.Proofs.Client.Connecting
import VectorClient.Proofs.Client.Memoryless
import VectorClient.Proofs.Client.Deeds
import VectorClient.Proofs.Client.Logging
import VectorClient.Proofs.Form.Acceptance
import VectorClient.Proofs.Form.Spelling
import VectorClient.Proofs.Form.Respelling
import VectorClient.Proofs.Param.Rows
import VectorClient.Proofs.Form.Storing
import VectorClient.Proofs.Param.Storing
import VectorClient.Proofs.Param.Respelling
import VectorClient.Proofs.Param.NormalForm
import VectorClient.Proofs.Wait.Schedules
import VectorClient.Proofs.Wait.Duration
import VectorClient.Proofs.Param.Batches
import VectorClient.Proofs.Param.Columns
import VectorClient.Proofs.Form.Reports
import VectorClient.Proofs.Param.Reports
import VectorClient.Proofs.Request.Metrics
import VectorClient.Proofs.Client.Visiting
import VectorClient.Proofs.Form.Nesting
import VectorClient.Proofs.Param.Nesting
import VectorClient.Proofs.Number.Order
import VectorClient.Proofs.Client.Overriding
import VectorClient.Proofs.Value.Printed
import VectorClient.Proofs.Client.Telling
