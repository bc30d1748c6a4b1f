import CodeGate.Http.Router
import CodeGate.Main
import CodeGate.Session
import CodeGate.Store.Memory
import CodeGate.Store.Realtime
import CodeGate.Proofs.Json.Canonical
import CodeGate.Proofs.Operations.History
import CodeGate.Proofs.Operations.Watched
import CodeGate.Proofs.Store.RecordUrl
import CodeGate.Proofs.Store.Edit
import CodeGate.Proofs.Store.Interleaving
import CodeGate.Proofs.Store.ReadBack
import CodeGate.Proofs.GraphQL.Steps
import CodeGate.Proofs.Http.OwnRecords
import CodeGate.Proofs.Operations.Checks
import CodeGate.Proofs.Operations.Documents
import CodeGate.Proofs.Store.OneRecord
import CodeGate.Proofs.Http.SameGate
import CodeGate.Proofs.Http.Confidential
import CodeGate.Proofs.Operations.Logged
import CodeGate.Proofs.Store.NoNull
import CodeGate.Proofs.Http.InOrder
import CodeGate.Proofs.Json.Printed
import CodeGate.Proofs.Url.Form
import CodeGate.Proofs.Store.Requests
import CodeGate.Proofs.Wire.Survival
import CodeGate.Proofs.Store.Merge
import CodeGate.Proofs.Store.Removal
import CodeGate.Proofs.Store.Absorption
import CodeGate.Proofs.Store.MemberWise
import CodeGate.Proofs.Session
import CodeGate.Proofs.CommandLine.Precedence
import CodeGate.Proofs.CommandLine.Credentials
import CodeGate.Proofs.Json.Wording
import CodeGate.Proofs.Settings.HomePath
import CodeGate.Proofs.Operations.CleanLog
