import OrderDesk.Main
import OrderDesk.Proofs.Account
import OrderDesk.Proofs.Acquisitions
import OrderDesk.Proofs.Alone
import OrderDesk.Proofs.Balance
import OrderDesk.Proofs.CallData
import OrderDesk.Proofs.CallLogs
import OrderDesk.Proofs.CancelData
import OrderDesk.Proofs.CancelEvidence
import OrderDesk.Proofs.CancelLog
import OrderDesk.Proofs.CancelRouting
import OrderDesk.Proofs.Capitals
import OrderDesk.Proofs.CommandRequests
import OrderDesk.Proofs.CommandSteps
import OrderDesk.Proofs.ConfirmAgain
import OrderDesk.Proofs.CriticalSection
import OrderDesk.Proofs.EventLogs
import OrderDesk.Proofs.Evidence
import OrderDesk.Proofs.Exclusion
import OrderDesk.Proofs.FailedPlacement
import OrderDesk.Proofs.FailureWindow
import OrderDesk.Proofs.Funding
import OrderDesk.Proofs.GasLimits
import OrderDesk.Proofs.Grids
import OrderDesk.Proofs.Journal
import OrderDesk.Proofs.Justified
import OrderDesk.Proofs.LocalCancel
import OrderDesk.Proofs.Log
import OrderDesk.Proofs.NonceOrder
import OrderDesk.Proofs.OrderAccess
import OrderDesk.Proofs.OrderHistory
import OrderDesk.Proofs.OrderSteps
import OrderDesk.Proofs.OwnOrders
import OrderDesk.Proofs.PairReading
import OrderDesk.Proofs.PartialCalls
import OrderDesk.Proofs.Parts
import OrderDesk.Proofs.PlaceThenConfirm
import OrderDesk.Proofs.PlacementData
import OrderDesk.Proofs.PlacementPhase
import OrderDesk.Proofs.Placements
import OrderDesk.Proofs.PollCount
import OrderDesk.Proofs.Polling
import OrderDesk.Proofs.PriceQuotes
import OrderDesk.Proofs.RawTransactions
import OrderDesk.Proofs.RegistryRuns
import OrderDesk.Proofs.Replay
import OrderDesk.Proofs.Reservations
import OrderDesk.Proofs.Returning
import OrderDesk.Proofs.RlpReading
import OrderDesk.Proofs.Scene
import OrderDesk.Proofs.Sendings
import OrderDesk.Proofs.Slippage
import OrderDesk.Proofs.Tallied
import OrderDesk.Proofs.TokenIndex
import OrderDesk.Proofs.Turns
import OrderDesk.Proofs.Units
import OrderDesk.Proofs.WalletLock
import OrderDesk.Proofs.WholeUnits
import OrderDesk.Proofs.Worth
import OrderDesk.Rehearsal.Fixtures
import OrderDesk.Rehearsal.RecordedNode
import OrderDesk.Rehearsal.Stage
import OrderDesk.Report.Orders
