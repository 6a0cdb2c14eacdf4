import RecordStore.Client.Identifier
import RecordStore.Logging.Output
import RecordStore.Schedule.Session
import RecordStore.Settings.Configuration
import RecordStore.Sqlite.Direct
import RecordStore.Proofs.Condition.Outcome
import RecordStore.Proofs.Lifecycle.Arguments
import RecordStore.Proofs.Lifecycle.Custody
import RecordStore.Proofs.Lifecycle.Forward
import RecordStore.Proofs.Lifecycle.Handles
import RecordStore.Proofs.Lifecycle.Refusals
import RecordStore.Proofs.Masking.Sessions
import RecordStore.Proofs.Query.Deletions
import RecordStore.Proofs.Query.Parameters
import RecordStore.Proofs.Schedule.Exclusion
import RecordStore.Proofs.Schedule.Serial
import RecordStore.Proofs.Schedule.Sessions
import RecordStore.Proofs.Sqlite.Pending
import RecordStore.Proofs.Schedule.Serving
import RecordStore.Proofs.Lifecycle.Conversation
import RecordStore.Proofs.Lifecycle.Blocks
import RecordStore.Proofs.Condition.Reading
import RecordStore.Proofs.Query.Selection
import RecordStore.Proofs.Lifecycle.Creation
import RecordStore.Proofs.Sqlite.Preparation
import RecordStore.Proofs.Condition.Parts
import RecordStore.Proofs.Query.Paging
import RecordStore.Proofs.Query.Retrieval
import RecordStore.Proofs.Sqlite.Releasing
import RecordStore.Proofs.Sqlite.Cursors
import RecordStore.Proofs.Query.Acceptance
import RecordStore.Proofs.Settings.Redirection
