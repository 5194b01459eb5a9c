import TxDispatch.Config.Load
import TxDispatch.Json.Grammar
import TxDispatch.Ledger.Gateway.Servers
import TxDispatch.Ledger.Scripted
import TxDispatch.Ledger.Staged
import TxDispatch.Session.Calls
import TxDispatch.Session.Connect
import TxDispatch.Session.Errands
import TxDispatch.Wallet.Handles
import TxDispatch.Wallet.Family
import TxDispatch.Proofs.Journal
import TxDispatch.Proofs.Outcomes
import TxDispatch.Proofs.Rebroadcasts
import TxDispatch.Proofs.Bookkeeping
import TxDispatch.Proofs.FreshSequences
import TxDispatch.Proofs.RecordedSequences
import TxDispatch.Proofs.ReportedSuccess
import TxDispatch.Proofs.Enforcement
import TxDispatch.Proofs.InStep
import TxDispatch.Proofs.Turns
import TxDispatch.Proofs.Crowd
import TxDispatch.Proofs.SharedAccount
import TxDispatch.Proofs.Recovery
import TxDispatch.Proofs.ReadBack
import TxDispatch.Proofs.SignedFields
import TxDispatch.Proofs.WireForm
import TxDispatch.Proofs.RawLogs
import TxDispatch.Proofs.Exhaustion
import TxDispatch.Proofs.LeftBehind
import TxDispatch.Session.Runs
import TxDispatch.Proofs.CheckedEnvelopes
import TxDispatch.Proofs.Delivery
import TxDispatch.Proofs.FirstAnswer
import TxDispatch.Proofs.GatewayUrls
import TxDispatch.Proofs.ConfiguredSessions
import TxDispatch.Proofs.Tallies
import TxDispatch.Proofs.Delays
import TxDispatch.Proofs.CountedCalls
import TxDispatch.Proofs.CompactCoins
import TxDispatch.Proofs.FirstMatch
import TxDispatch.Proofs.SharedCounters
import TxDispatch.Proofs.JsonTexts
import TxDispatch.Proofs.KeyOrder
import TxDispatch.Proofs.CanonicalBytes
import TxDispatch.Proofs.RecordEdits
import TxDispatch.Proofs.ReceiptCodec
import TxDispatch.Proofs.ConflictCodes
import TxDispatch.Proofs.FeeCodec
import TxDispatch.Proofs.DeployedCode
import TxDispatch.Proofs.PercentCoding
import TxDispatch.Proofs.PathTexts
import TxDispatch.Proofs.ContainedReads
import TxDispatch.Proofs.Sketches
import TxDispatch.Proofs.ConfigCodec
import TxDispatch.Proofs.ConfigRules
import TxDispatch.Proofs.KeyTexts
import TxDispatch.Proofs.FaithfulScript
