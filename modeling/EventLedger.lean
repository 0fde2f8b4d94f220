import EventLedger.Text.Blank
import EventLedger.Text.DecimalDigit
import EventLedger.Text.Quoted
import EventLedger.Decimal.Text
import EventLedger.Double.Text
import EventLedger.Text.Encoding
import EventLedger.Json.Reader
import EventLedger.Canonical
import EventLedger.Chain
import EventLedger.Behavior
import EventLedger.Request
import EventLedger.Log.Memory
import EventLedger.Log.Codec
import EventLedger.Log.File
import EventLedger.Replay
import EventLedger.Engine.Submit
import EventLedger.Account.Tables
import EventLedger.Account.Codec
import EventLedger.Logging.Setup
import EventLedger.Terminal.Literal.Shape
import EventLedger.Terminal.Look
import EventLedger.Terminal.Table
import EventLedger.CommandLine.Run
import EventLedger.Main
import EventLedger.Proofs.MemoryReplay
import EventLedger.Proofs.Session
import EventLedger.Proofs.LiveState
import EventLedger.Proofs.AccountRules
import EventLedger.Proofs.Decisions
import EventLedger.Proofs.ConfirmedCommands
import EventLedger.Proofs.ReplyProtocol
import EventLedger.Proofs.DecimalValue
import EventLedger.Proofs.DecimalRounding
import EventLedger.Proofs.DecimalSums
import EventLedger.Proofs.DecimalText
import EventLedger.Proofs.Utf8
import EventLedger.Proofs.JsonReading
import EventLedger.Proofs.HalvedTexts
import EventLedger.Proofs.AccountNumbers
import EventLedger.Proofs.FileChain
import EventLedger.Proofs.FileRecovery
import EventLedger.Proofs.FailedSubmission
import EventLedger.Proofs.Agreement
import EventLedger.Proofs.DoubleText
import EventLedger.Proofs.JsonValues
import EventLedger.Proofs.CanonicalText
import EventLedger.Proofs.ChainVerification
import EventLedger.Proofs.TamperEvidence
import EventLedger.Proofs.FileRepresentation
import EventLedger.Proofs.FileRefinement
import EventLedger.Proofs.Conservation
import EventLedger.Proofs.DoubleRounding
import EventLedger.Proofs.ShortestDouble
import EventLedger.Proofs.DoubleReading
import EventLedger.Proofs.OpenLines
import EventLedger.Proofs.FileDurability
import EventLedger.Proofs.SortedItems
import EventLedger.Proofs.WrittenValues
import EventLedger.Proofs.RecordLines
import EventLedger.Proofs.ReadableFile
import EventLedger.Proofs.Strands
import EventLedger.Proofs.SharedLog
import EventLedger.Proofs.Isolation
import EventLedger.Proofs.PastStates
import EventLedger.Proofs.LawfulHistories
import EventLedger.Proofs.CustomCommands
import EventLedger.Proofs.Policies
import EventLedger.Proofs.Disks
import EventLedger.Proofs.ShownAnswers
import EventLedger.Proofs.ExitStatus
import EventLedger.Proofs.FileAtomicity
import EventLedger.Proofs.JointChange
import EventLedger.Proofs.Verdicts
import EventLedger.Proofs.Scenes
import EventLedger.Proofs.HandleLifecycle
import EventLedger.Proofs.CodecRegistrations
import EventLedger.Proofs.StoredAmounts
import EventLedger.Proofs.CanonicalReading
import EventLedger.Proofs.NameOrder
import EventLedger.Proofs.SameMeaning
import EventLedger.Proofs.Overdraft
import EventLedger.Proofs.ReplayCut
import EventLedger.Proofs.EmptiedAccounts
import EventLedger.Proofs.PlainNotation
import EventLedger.Proofs.StateHashes
import EventLedger.Proofs.HandlerTables
