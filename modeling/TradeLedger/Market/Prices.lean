import TradeLedger.Time.Instant
/-!
# Mark prices

The latest mark price per symbol, with the instant it was set. A throttled update is refused
while the entry is younger than a minimum interval, and counted on the entry. A sweep drops
entries set before a cutoff.

## Main definitions

* `PriceCache`, `PriceCache.setThrottled`: the cache and a throttled update.
-/

namespace TradeLedger

structure PriceEntry where
  price : Float
  updatedAt : Instant
  skipped : Nat := 0
  deriving Repr, Inhabited

/-- Cached prices by symbol. -/
structure PriceCache where
  entries : List (String × PriceEntry) := []
  deriving Repr, Inhabited

/-- Counts over the cache. -/
structure PriceStats where
  totalItems : Nat
  throttled : Nat
  oldestAge : Duration
  deriving Repr, Inhabited

namespace PriceCache

/-- The entry of a symbol. -/
def find? (c : PriceCache) (symbol : String) : Option PriceEntry :=
  (c.entries.find? (·.1 == symbol)).map (·.2)

/-- Set the entry of a symbol. -/
def put (c : PriceCache) (symbol : String) (e : PriceEntry) : PriceCache :=
  match c.entries.find? (·.1 == symbol) with
  | some _ => { entries := c.entries.map fun p => if p.1 == symbol then (symbol, e) else p }
  | none => { entries := c.entries ++ [(symbol, e)] }

def set (c : PriceCache) (now : Instant) (symbol : String) (price : Float) : PriceCache :=
  c.put symbol { price := price, updatedAt := now }

/-- Set a price unless the entry is younger than `minInterval`; whether it was taken. -/
def setThrottled (c : PriceCache) (now : Instant) (symbol : String) (price : Float)
    (minInterval : Duration) : PriceCache × Bool :=
  match c.find? symbol with
  | some e =>
    if Instant.sub now e.updatedAt < minInterval then
      (c.put symbol { e with skipped := e.skipped + 1 }, false)
    else (c.set now symbol price, true)
  | none => (c.set now symbol price, true)

/-- The price of a symbol. -/
def get? (c : PriceCache) (symbol : String) : Option Float := (c.find? symbol).map (·.price)

/-- Drop entries set before `now - maxAge`; how many were dropped. -/
def cleanup (c : PriceCache) (now : Instant) (maxAge : Duration) : PriceCache × Nat :=
  let cutoff := now.toMs - Duration.toMs maxAge
  let kept := c.entries.filter fun p => !(p.2.updatedAt.toMs < cutoff)
  ({ entries := kept }, c.entries.length - kept.length)

/-- Entry count, refused updates, and the age of the oldest entry. An entry set at the zero
instant does not count as oldest, and it lets the next entry take the place. -/
def stats (c : PriceCache) (now : Instant) : PriceStats :=
  let oldest := c.entries.foldl (fun (o : Instant) p =>
    if o.isNone || p.2.updatedAt.toMs < o.toMs then p.2.updatedAt else o) none
  { totalItems := c.entries.length,
    throttled := c.entries.foldl (fun n p => n + p.2.skipped) 0,
    oldestAge := if oldest.isNone then 0 else Instant.sub now oldest }

end PriceCache

/-- The cache key of a symbol's last traded price. -/
def lastPriceKey (symbol : String) : String := symbol ++ "@last"

end TradeLedger
