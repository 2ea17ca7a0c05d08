/-!
# Request limits per client

Every client address has a bucket of tokens that refills at a rate per second up to a burst; a
request takes a token, and one that finds the bucket empty is refused. A rate or burst that is
not positive selects the default (twenty a second, bursts of fifty). The requests of a run come
within one instant, so a client gets its burst, and then refusals.

## Main definitions

* `RateLimits`, `RateLimits.allow`: the buckets, and whether a request may pass.
-/

namespace TradeLedger

/-- The buckets of every client: the refill rate, the burst, and the tokens each client has
taken. -/
structure RateLimits where
  rate : Float
  burst : Nat
  taken : List (String × Nat) := []
  deriving Repr, Inhabited

namespace RateLimits

/-- Buckets with a rate and burst, defaults for values that are not positive. -/
def create (rate : Float) (burst : Int) : RateLimits :=
  { rate := if rate ≤ 0 then 20 else rate, burst := if burst ≤ 0 then 50 else burst.toNat }

/-- The tokens a client has taken. -/
def takenBy (l : RateLimits) (client : String) : Nat :=
  ((l.taken.find? (·.1 == client)).map (·.2)).getD 0

/-- Take a token for a client: whether there was one, and the buckets after. -/
def allow (l : RateLimits) (client : String) : Bool × RateLimits :=
  let n := l.takenBy client
  if n < l.burst then
    (true, { l with taken := (client, n + 1) :: l.taken.filter (·.1 != client) })
  else (false, l)

end RateLimits

end TradeLedger
