import TradeLedger.Monitor.Histogram
/-!
# Service metrics

Counters of the stream, the dispatcher, the ledger sync, the position manager and the
reconciliation, and latency histograms. Latencies are measured on the machine's clock, so only
the number of samples is ever shown.

## Main definitions

* `Metrics`: the counters and histograms.
-/

namespace TradeLedger

/-- Every counter and latency histogram of the service. -/
structure Metrics where
  dispatchLatency : LatencyHistogram := {}
  syncLatency : LatencyHistogram := {}
  conflictLatency : LatencyHistogram := {}
  framesReceived : Nat := 0
  reconnects : Nat := 0
  throttledWaits : Nat := 0
  eventsDispatched : Nat := 0
  decodeErrors : Nat := 0
  handlerErrors : Nat := 0
  fillsApplied : Nat := 0
  fillsDuplicate : Nat := 0
  fillsUnresolved : Nat := 0
  fallbackHits : Nat := 0
  merges : Nat := 0
  rejects : Nat := 0
  degradedAdmits : Nat := 0
  reconcileUpdates : Nat := 0
  reconcileFailures : Nat := 0
  notificationsDropped : Nat := 0
  deriving Repr, Inhabited

/-- A timing sample; its value is the machine's and never shown. -/
def LatencyHistogram.time (h : LatencyHistogram) : LatencyHistogram := h.record 0

end TradeLedger
