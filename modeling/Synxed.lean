import Synxed.Lib.Outcome
import Synxed.Lib.Bytes
import Synxed.Lib.Proportion
import Synxed.Lib.Trace
import Synxed.Lib.Payout
import Synxed.Lib.Script
import Synxed.Lib.Json
import Synxed.Lib.Base58
import Synxed.Lib.Interaction
import Synxed.Lib.Threads
import Synxed.Lib.Holders
import Synxed.Lib.Base64
import Synxed.Lib.Table
import Synxed.Lib.Checked
import Synxed.Program.Split
import Synxed.Program.Instruction
import Synxed.Program.Runtime
import Synxed.Program.Token
import Synxed.Program.State
import Synxed.Program.Processor
import Synxed.Program.Checked
import Synxed.Program.Effects
import Synxed.Program.NoPanic
import Synxed.Program.Chain
import Synxed.Program.Payouts
import Synxed.Program.TokenPayouts
import Synxed.Program.Safety
import Synxed.Program.Kinds
import Synxed.Program.Enabled
import Synxed.Program.OnChain
import Synxed.Program.Registry
import Synxed.Sdk.Types
import Synxed.Sdk.Split
import Synxed.Sdk.Instruction
import Synxed.Sdk.Client
import Synxed.Sdk.Ledger
import Synxed.Sdk.Reconcile
import Synxed.Sdk.Pool
import Synxed.Sdk.Evidence
import Synxed.Sdk.Completeness
import Synxed.Sdk.TokenClient
import Synxed.Sdk.TokenCompleteness
import Synxed.Sdk.Fit
import Synxed.Sdk.History
import Synxed.Sdk.Copies
import Synxed.Sdk.Readers
import Synxed.Sdk.Search
import Synxed.Studio.Store
import Synxed.Studio.Events
import Synxed.Studio.Worker
import Synxed.Studio.Uses
import Synxed.Studio.Cluster
import Synxed.Studio.Creation
import Synxed.Studio.World
import Synxed.Studio.Ledger
import Synxed.Studio.Settled
import Synxed.Studio.EventIds
import Synxed.Studio.Books
import Synxed.Studio.Alone
import Synxed.Studio.Second
import Synxed.Studio.Journal
import Synxed.Studio.Careful
import Synxed.Studio.AttemptLog
import Synxed.Studio.Expiry
import Synxed.Studio.Reports
import Synxed.Studio.Overlap
import Synxed.Studio.Beside
import Synxed.Studio.TwoWorkers
import Synxed.Studio.WriteAhead
import Synxed.Studio.Verdicts
import Synxed.Studio.OneLive
import Synxed.Studio.Conserved
import Synxed.Studio.Progress
import Synxed.Studio.Signing
import Synxed.Studio.Namespaces
import Synxed.Studio.Opening
import Synxed.Studio.DryRun
