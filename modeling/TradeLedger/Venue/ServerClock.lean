import TradeLedger.Time.Instant
/-!
# The venue's clock

The service keeps the offset of the venue's clock from its own. A sync reads the local clock
before and after asking the venue; the answer stands for the midpoint, and the offset, truncated
toward zero to whole milliseconds, is the venue's time minus the midpoint. A failed sync keeps
the previous offset.

## Main definitions

* `ServerClock.ofReading`, `ServerClock.nowMillis`: a sync and the venue's time.
-/

namespace TradeLedger

/-- The venue's clock relative to the local one. -/
structure ServerClock where
  offset : Duration := 0
  lastSync : Instant := none
  deriving Repr, Inhabited

namespace ServerClock

/-- The clock after a sync that read the venue's time `venueMs` between the local instants
`sent` and `received`. -/
def ofReading (sent received : Instant) (venueMs : Int) : ServerClock :=
  let rtt := Instant.sub received sent
  let midNs := sent.toMs * Duration.perMs + rtt.tdiv 2
  let offset := Duration.saturate (venueMs * Duration.perMs - midNs)
  { offset := offset - offset.tmod Duration.perMs, lastSync := received }

/-- The local instant moved by the offset, in unix milliseconds. -/
def nowMillis (c : ServerClock) (localNow : Instant) : Int :=
  (localNow.toMs * Duration.perMs + c.offset) / Duration.perMs

end ServerClock

end TradeLedger
