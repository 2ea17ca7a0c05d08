import TradeLedger.Fault
import TradeLedger.Venue.Weight
import TradeLedger.Venue.ServerClock
import TradeLedger.Venue.History
/-!
# The venue's REST client

The client manages listen keys, reads the venue's clock, lists account fills and sums funding
income. Its network refuses every connection, so every call that sends a request fails at the
transport, with the method and the (masked) address in the text. What the client decides before
sending still shows: fills need both credentials, and an empty time range lists no fills.

Fills are listed by walking the range: pages of at most 1000 fills over spans of at most seven
days, span after span, and after a full page again from just after its last fill. The venue's
listing is a parameter of the walk (`FillListing`).

## Main definitions

* `FillListing.walk`: the walk over a range.
* `VenueClient`: the client and its calls.

## Theorems

* `FillListing.lt_resume`: each page moves the walk forward.
-/

namespace TradeLedger

/-- The methods the client sends. -/
inductive HttpMethod where
  | get
  | post
  | put
  | delete
  deriving Repr, DecidableEq, Inhabited

/-- The text of a request the network refused: the method as the HTTP client spells it, the
masked address and the masked transport error. -/
def HttpMethod.transportFailure (m : HttpMethod) : Fault :=
  let name := match m with
    | .get => "Get"
    | .post => "Post"
    | .put => "Put"
    | .delete => "Delete"
  Fault.plain (name ++ " \"<url>\": <transport>")

/-- The longest span one query of fills may cover: seven days, in milliseconds. -/
def fillSpanMs : Int := 7 * 24 * 3600 * 1000

/-- The most fills one query answers. -/
def fillPageLimit : Nat := 1000

/-- A venue's queries of account fills: for a symbol and a range `[startTime, endTime]` of unix
milliseconds, the page of fills the venue answers, or the failure of the request. The venue lists
only fills of the range it was asked for. -/
structure FillListing where
  page : String → Int → Int → Except Fault (List Fill)
  within : ∀ {symbol : String} {startTime endTime : Int} {fills : List Fill},
    page symbol startTime endTime = .ok fills → ∀ f ∈ fills, startTime ≤ f.time ∧ f.time ≤ endTime

namespace FillListing

/-- Where a walk goes on after the page `fills` of a span ending at `spanEnd`: just after the
page's last fill when the page is full, as more fills may lie in the span, else just after the
span. -/
def resume (spanEnd : Int) (fills : List Fill) : Int :=
  if fills.length = fillPageLimit then (fills.getLastD default).time + 1 else spanEnd + 1

/-- A walk moves forward: the page of a span starting at `start` holds no fill before it. -/
theorem lt_resume {v : FillListing} {symbol : String} {start spanEnd : Int} {fills : List Fill}
    (h : v.page symbol start spanEnd = .ok fills) (hle : start ≤ spanEnd) :
    start < resume spanEnd fills := by
  unfold resume
  split
  · rename_i hfull
    have hne : fills ≠ [] := by
      intro hnil
      simp [hnil, fillPageLimit] at hfull
    rw [List.getLastD_eq_getLast?, List.getLast?_eq_some_getLast hne, Option.getD_some]
    have := (v.within h _ (List.getLast_mem hne)).1
    omega
  · omega

/-- The fills of a symbol in `[start, stop]`: spans of at most seven days are asked in turn from
`start` while the walk is before `stop`, each from where the last page left off; the first failed
query fails the walk. -/
def walk (v : FillListing) (symbol : String) (start stop : Int) : Except Fault (List Fill) :=
  if _hlt : start < stop then
    match _hp : v.page symbol start (min (start + fillSpanMs) stop) with
    | .error f => .error f
    | .ok fills => (fills ++ ·) <$> v.walk symbol (resume (min (start + fillSpanMs) stop) fills) stop
  else .ok []
termination_by (stop - start).toNat
decreasing_by
  have := lt_resume _hp (by simp only [fillSpanMs]; omega)
  omega

/-- The listing behind a network that no request reaches. -/
def unreachable : FillListing where
  page _ _ _ := .error HttpMethod.get.transportFailure
  within h := by cases h

end FillListing

/-- Credentials and request settings of the client. -/
structure VenueConfig where
  apiKey : String := ""
  apiSecret : String := ""
  recvWindow : Int := 0
  deriving Repr, Inhabited

/-- The client: its settings, its request-weight tracker and its estimate of the venue's clock. -/
structure VenueClient where
  config : VenueConfig
  weight : WeightTracker
  clock : ServerClock := {}
  deriving Repr, Inhabited

namespace VenueClient

/-- A client with a weight limit of 2400 per minute. -/
def create (c : VenueConfig) : VenueClient :=
  { config := c, weight := { limit := 2400, window := Duration.ofMs 60000 } }

def createListenKey (_c : VenueClient) : Except Fault String :=
  .error (HttpMethod.post.transportFailure.wrap "create listen key: ")

def keepAlive (_c : VenueClient) (_key : String) : Except Fault Unit :=
  .error (HttpMethod.put.transportFailure.wrap "keepalive listen key: ")

def closeListenKey (_c : VenueClient) (_key : String) : Except Fault Unit :=
  .error (HttpMethod.delete.transportFailure.wrap "close listen key: ")

/-- The venue's time in unix milliseconds. -/
def serverTime (_c : VenueClient) : Except Fault Int := .error HttpMethod.get.transportFailure

/-- Sync the clock estimate; a failed sync keeps the old estimate. -/
def syncClock (c : VenueClient) : VenueClient × Except Fault Unit :=
  match c.serverTime with
  | .ok _ => (c, .ok ())
  | .error f => (c, .error f)

/-- Account fills of a symbol in `[start, end]` from a venue's listing: both credentials are
needed, then the range is walked. -/
def userTradesFrom (c : VenueClient) (v : FillListing) (symbol : String) (start stop : Instant) :
    Except Fault (List Fill) :=
  if c.config.apiKey == "" || c.config.apiSecret == "" then
    .error (Fault.plain "binance usdt futures: API key/secret required")
  else v.walk symbol start.toMs stop.toMs

/-- Account fills of a symbol in `[start, end]`; no query reaches the venue. -/
def userTrades (c : VenueClient) (symbol : String) (start stop : Instant) :
    Except Fault (List Fill) :=
  c.userTradesFrom FillListing.unreachable symbol start stop

/-- Closed round trips of a symbol rebuilt from its fills in `[start, end]`. -/
def positionHistory (c : VenueClient) (symbol : String) (start stop : Instant) :
    Except Fault (List PositionRecord) :=
  (c.userTrades symbol start stop).map buildPositionHistory

/-- Net funding income of a symbol in `[start, end]`. -/
def fundingBetween (_c : VenueClient) (symbol : String) (_start _stop : Instant) : Except Fault Float :=
  .error (HttpMethod.get.transportFailure.wrap ("funding income " ++ symbol ++ ": "))

end VenueClient

end TradeLedger
