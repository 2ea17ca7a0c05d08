import TradeLedger.Command.Run
import TradeLedger.Main
import TradeLedger.Proofs.Cooldown.Persistence
import TradeLedger.Proofs.Event.FanOut
import TradeLedger.Proofs.Event.Leaves
import TradeLedger.Proofs.Ledger.MergedIds
import TradeLedger.Proofs.Ledger.Resolution
import TradeLedger.Proofs.Ledger.WriteRaces
import TradeLedger.Proofs.Market.SnapshotOrder
import TradeLedger.Proofs.Notify.Accounting
import TradeLedger.Proofs.Position.Average
import TradeLedger.Proofs.Position.FreshReads
import TradeLedger.Proofs.Position.Generations
import TradeLedger.Proofs.Position.MergeReload
import TradeLedger.Proofs.Reconcile.DryRun
import TradeLedger.Proofs.Reconcile.Profit
import TradeLedger.Proofs.Reconcile.Rerun
import TradeLedger.Proofs.Stream.KeyRefresh
import TradeLedger.Proofs.Trade.FillRuns
import TradeLedger.Proofs.Trade.TokenSearch
import TradeLedger.Proofs.Venue.FillWalk
import TradeLedger.Proofs.Venue.WeightWindow
import TradeLedger.Proofs.Stream.Lifecycle
