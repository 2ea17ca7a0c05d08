import TradeLedger.Admin.Body
import TradeLedger.Admin.Bind
import TradeLedger.Admin.Limit
import TradeLedger.Admin.Request
import TradeLedger.Admin.Token
import TradeLedger.Json.Decode
import TradeLedger.Number.Read
import TradeLedger.Text.Case
import TradeLedger.Text.Fold
import TradeLedger.Time.DurationRead
/-!
# The admin API

Operators watch and steer the service over HTTP. `/health` is open to everyone; every route
under `/api` wants a bearer token signed with the service's secret.

| method | path | answer |
| --- | --- | --- |
| GET | `/health` | `ok`, or `degraded` once a stream gave up, and the version |
| GET | `/api/streams` | the status of each stream connection |
| GET | `/api/positions/:trader` | a trader's open positions |
| GET | `/api/trades?trader=&limit=` | a trader's latest trades |
| GET | `/api/balances` | the balances and when they were last synced |
| GET | `/api/prices` | the mark prices and the cache's statistics |
| GET | `/api/cooldowns?symbol=&trader=` | the cooldowns in force |
| GET | `/api/metrics` | the service's metrics, the notifier's and the venue client's |
| POST | `/api/reconcile` | a reconciliation run and its report |
| GET | `/api/reconcile/runs` | the latest reconciliation runs |
| POST | `/api/trades/:id/admit` | a pending trade admitted by hand |
| POST | `/api/trades/:id/replace` | a trade made the primary of a position |

A request is redirected when its path has an extra trailing slash, gets its `X-Request-ID`,
needs a token left in its client's bucket (else `429`), a route (else `404`) and, on a protected
route, a valid bearer token (else `401`). A collaborator not wired answers `503`.

## Main definitions

* `Route`, `Route.find?`: the routes, and the one a method and path name.
* `AdminServer.handle`: the answer to one request.
-/

namespace TradeLedger

/-- A part of the service the admin API can be wired to. -/
inductive Collaborator where
  | streams
  | positions
  | balances
  | prices
  | cooldowns
  | reconciler
  | ledger
  | metrics
  | venue
  | notifier
  deriving Repr, DecidableEq, Inhabited

namespace Collaborator

/-- Every collaborator. -/
def all : List Collaborator :=
  [.streams, .positions, .balances, .prices, .cooldowns, .reconciler, .ledger, .metrics, .venue,
    .notifier]

def ofName? : String → Option Collaborator
  | "streams" => some .streams
  | "positions" => some .positions
  | "balances" => some .balances
  | "prices" => some .prices
  | "cooldowns" => some .cooldowns
  | "reconciler" => some .reconciler
  | "ledger" => some .ledger
  | "metrics" => some .metrics
  | "venue" => some .venue
  | "notifier" => some .notifier
  | _ => none

end Collaborator

/-- How the admin API is tuned: the secret of its tokens, the requests a second and the burst
each client may make, and the version it reports. -/
structure AdminConfig where
  secret : String := ""
  rateLimit : Float := 0
  rateBurst : Int := 0
  version : String := ""
  deriving Repr, Inhabited

/-- The venue client the admin API reports on: a weight tracker with the venue's limit, and a
clock that was never synced. -/
def quietVenue : WeightTracker × ServerClock :=
  ({ limit := 2400, window := 60 * Duration.perSecond }, {})

/-- The admin API: its tuning, the collaborators wired to it, the stream connections it
reports on, its own reconciler and venue client, and the request buckets so far. -/
structure AdminServer where
  config : AdminConfig
  attached : List Collaborator := Collaborator.all
  streams : List Connection := []
  reconciler : Reconciler := {}
  venue : WeightTracker × ServerClock := quietVenue
  limits : RateLimits
  deriving Inhabited

/-- What an answer carries: JSON, or text. -/
inductive ResponseBody where
  | json (body : Json)
  | text (body : String)
  deriving Repr, Inhabited

/-- An answer: its status, its content type (empty when it has none), what it carries, and the
request id it gives back, if any. -/
structure AdminResponse where
  status : Nat
  contentType : String := ""
  payload : ResponseBody := .text ""
  requestId : Option String := none
  deriving Repr, Inhabited

namespace AdminResponse

def jsonType : String := "application/json; charset=utf-8"

def json (status : Nat) (body : Json) : AdminResponse :=
  { status, contentType := jsonType, payload := .json body }

/-- A JSON answer whose body may not be writable: one that cannot be written leaves the
answer with its status and content type but no body. -/
def encoded (status : Nat) (body : Except String Json) : AdminResponse :=
  match body with
  | .ok b => json status b
  | .error _ => { status, contentType := jsonType, payload := .text "" }

/-- A refusal: a status, a code and a message. -/
def failure (status : Nat) (code message : String) : AdminResponse :=
  json status (.obj [("code", .str code), ("error", .str message)])

/-- The answer of a route whose collaborator is not wired. -/
def unavailable (what : String) : AdminResponse :=
  failure 503 "UNAVAILABLE" (what ++ " is not configured")

/-- The answer for a path without a route. -/
def notFound : AdminResponse :=
  { status := 404, contentType := "text/plain", payload := .text "404 page not found" }

/-- The answer to a failure of the domain, by its kind: a missing record or position is not
found, a request without a trader or with an invalid trade is bad, a trade that cannot be
admitted or a run already going on conflicts, a conflict check that cannot be made leaves
the service unavailable, and a crash answers with nothing. -/
def ofFault (f : Fault) : AdminResponse :=
  match f.kind with
  | .notFound | .noPosition => failure 404 "NOT_FOUND" f.text
  | .traderIdRequired | .invalidTrade => failure 400 "INVALID_REQUEST" f.text
  | .notAdmissible | .runInProgress => failure 409 "CONFLICT" f.text
  | .conflictCheckUnavailable => failure 503 "CONFLICT_CHECK_UNAVAILABLE" f.text
  | .panic => { status := 500 }
  | _ => failure 500 "INTERNAL_ERROR" f.text

end AdminResponse

/-- The routes of the admin API, with their path parameters. -/
inductive Route where
  | health
  | streams
  | positions (trader : String)
  | trades
  | balances
  | prices
  | cooldowns
  | metrics
  | reconcile
  | reconcileRuns
  | admitTrade (id : String)
  | replaceTrade (id : String)
  deriving Repr, DecidableEq, Inhabited

namespace Route

/-- The route a method and a decoded path take, if any. -/
def find? (method path : String) : Option Route :=
  match method, path.splitOn "/" with
  | "GET", ["", "health"] => some .health
  | "GET", ["", "api", "streams"] => some .streams
  | "GET", ["", "api", "positions", trader] =>
    if trader.isEmpty then none else some (.positions trader)
  | "GET", ["", "api", "trades"] => some .trades
  | "GET", ["", "api", "balances"] => some .balances
  | "GET", ["", "api", "prices"] => some .prices
  | "GET", ["", "api", "cooldowns"] => some .cooldowns
  | "GET", ["", "api", "metrics"] => some .metrics
  | "POST", ["", "api", "reconcile"] => some .reconcile
  | "GET", ["", "api", "reconcile", "runs"] => some .reconcileRuns
  | "POST", ["", "api", "trades", id, "admit"] => some (.admitTrade id)
  | "POST", ["", "api", "trades", id, "replace"] => some (.replaceTrade id)
  | _, _ => none

/-- Whether a path without a route is sent on to the path without its last slash: the path
is a route's with one more slash at its end, a parameter at the end possibly empty, or a
POST to `/api/trades/:id/`, which stands where the two trade routes part. -/
def redirects (method path : String) : Bool :=
  match method, path.splitOn "/" with
  | "GET", ["", "health", ""] => true
  | "GET", ["", "api", "streams", ""] => true
  | "GET", ["", "api", "positions", _, ""] => true
  | "GET", ["", "api", "trades", ""] => true
  | "GET", ["", "api", "balances", ""] => true
  | "GET", ["", "api", "prices", ""] => true
  | "GET", ["", "api", "cooldowns", ""] => true
  | "GET", ["", "api", "metrics", ""] => true
  | "GET", ["", "api", "reconcile", "runs", ""] => true
  | "POST", ["", "api", "reconcile", ""] => true
  | "POST", ["", "api", "trades", _, ""] => true
  | "POST", ["", "api", "trades", _, "admit", ""] => true
  | "POST", ["", "api", "trades", _, "replace", ""] => true
  | _, _ => false

/-- Whether a route wants a token. -/
def isProtected : Route → Bool
  | .health => false
  | _ => true

end Route

/-- A slash-separated path made plain: no empty or `.` elements, each `..` taking away the
element before it (and none above the root), and `.` for a relative path that ends up empty. -/
def cleanPath (p : String) : String :=
  let rooted := p.startsWith "/"
  let step (acc : List String) (e : String) : List String :=
    if e.isEmpty || e == "." then acc
    else if e == ".." then
      match acc with
      | top :: rest => if top == ".." then e :: acc else rest
      | [] => if rooted then [] else [e]
    else e :: acc
  let body := "/".intercalate ((p.splitOn "/").foldl step []).reverse
  if rooted then "/" ++ body else if body.isEmpty then "." else body

/-- A text with the five characters that are special in HTML written as entities. -/
def htmlEscape (s : String) : String :=
  String.join (s.toList.map fun c =>
    if c == '&' then "&amp;"
    else if c == '<' then "&lt;"
    else if c == '>' then "&gt;"
    else if c == '"' then "&#34;"
    else if c.toNat == 39 then "&#39;"
    else c.toString)

/-- The answer that sends a request on to its path without the last slash. The new place is
the path escaped and made plain (a slash at its end kept), then the query. A GET is moved for
good and shown a link; any other method is sent on with its method kept, and shown nothing. -/
def redirectAnswer (req : AdminRequest) : AdminResponse :=
  let escaped := Url.escape .path (String.ofList req.path.toList.dropLast)
  let plain := cleanPath escaped
  let plain := if escaped.endsWith "/" && !plain.endsWith "/" then plain ++ "/" else plain
  let location := plain ++ (match req.query with
    | some q => "?" ++ q
    | none => "")
  if req.method == "GET" then
    { status := 301, contentType := "text/html; charset=utf-8",
      payload := .text ("<a href=\"" ++ htmlEscape location ++ "\">Moved Permanently</a>.\n\n") }
  else { status := 307 }

/-- The fields of a reconciliation request. -/
def reconcileFields : List BodyField :=
  [{ name := "Lookback", key := "lookback", kind := .text },
   { name := "TraderID", key := "trader_id", kind := .text },
   { name := "DryRun", key := "dry_run", kind := .flag }]

/-- The fields of a replacement request: a trader, a symbol and a side, all required, the side
long or short. -/
def replaceFields : List BodyField :=
  [{ name := "TraderID", key := "trader_id", kind := .text, rules := [.required] },
   { name := "Symbol", key := "symbol", kind := .text, rules := [.required] },
   { name := "Side", key := "side", kind := .text, rules := [.required, .oneOf ["LONG", "SHORT"]] }]

/-- The text a bound field holds, empty when it was not set. -/
def boundText (bound : List (String × Json)) (key : String) : String :=
  match boundValue? bound key with
  | some (.str t) => t
  | _ => ""

/-- The refusal of a lookback that is not a positive duration. -/
def invalidLookback : AdminResponse :=
  AdminResponse.failure 400 "INVALID_LOOKBACK" "lookback must be a positive duration"

/-- The options a reconciliation request asks for: an empty body asks for the defaults; a body
that does not bind is refused; the lookback, when given, is a positive duration; the trader is
taken without surrounding blanks. -/
def reconcileOptions (body : Option String) : Except AdminResponse RunOptions := do
  let text := body.getD ""
  let bound ← if text.isEmpty then pure [] else
    match Json.decodeFirst text >>= bindObject "reconcileRequest" "api.reconcileRequest"
        reconcileFields with
    | .ok b => pure b
    | .error _ => throw (AdminResponse.failure 400 "INVALID_PAYLOAD" "invalid request payload")
  let lookbackText := boundText bound "lookback"
  let lookback ← if lookbackText.isEmpty then pure 0 else
    match Duration.parse lookbackText with
    | .ok l => if l ≤ 0 then throw invalidLookback else pure l
    | .error _ => throw invalidLookback
  let dryRun := match boundValue? bound "dry_run" with
    | some (.bool b) => b
    | _ => false
  pure { lookback, dryRun, traderId := String.trimBlank (boundText bound "trader_id") }

/-- What a replacement request asks for (trader, symbol, side), or why it is refused: the
decoder's message, or the report of the rules it breaks. -/
def replaceRequest (body : Option String) : Except String (String × String × String) := do
  let j ← Json.decodeFirst (body.getD "")
  let bound ← bindObject "replaceRequest" "api.replaceRequest" replaceFields j
  match validate "replaceRequest" replaceFields bound with
  | some report => throw report
  | none => pure (boundText bound "trader_id", boundText bound "symbol", boundText bound "side")

def traderField : BodyField := { name := "TraderID", key := "trader", kind := .text }

/-- The trader and limit a trade listing asks for: an empty or absent limit is 0, another
must read as a 64-bit integer; the trader is required. A limit that is not positive is 100,
and none is above 500. -/
def tradesQuery (req : AdminRequest) : Except String (String × Int) := do
  let limit ← match req.query? "limit" with
    | none => pure 0
    | some t =>
      match readInt64Text (if t.isEmpty then "0" else t) with
      | .ok n => pure n
      | .error f => throw f.message
  let trader := (req.query? "trader").getD ""
  if trader.isEmpty then throw (ruleReport "listTradesQuery" traderField .required)
  pure (trader, if limit ≤ 0 then 100 else if 500 < limit then 500 else limit)

/-- The request id of a request: the one it sends, or a fresh one. -/
def requestIdOf (req : AdminRequest) (fresh : String) : String :=
  match req.header? "X-Request-ID" with
  | some v => if v.isEmpty then fresh else v
  | none => fresh

/-- Answer with a step on the desk: the body of its result, or the answer to its failure. -/
def answerOnDesk {α : Type} (d : Desk) (act : DeskM α) (body : α → Except String Json) :
    AdminResponse × Desk :=
  match (act.run).run d with
  | (.ok a, d) => (AdminResponse.encoded 200 (body a), d)
  | (.error f, d) => (AdminResponse.ofFault f, d)

namespace AdminServer

/-- A server with a tuning and its collaborators. -/
def create (config : AdminConfig) (attached : List Collaborator) (streams : List Connection)
    (reconciler : Reconciler) : AdminServer :=
  { config, attached, streams, reconciler,
    limits := RateLimits.create config.rateLimit config.rateBurst }

/-- Whether a collaborator is wired. -/
def has (s : AdminServer) (c : Collaborator) : Bool := s.attached.contains c

/-- The stream connections reported on. -/
def reported (s : AdminServer) : List Connection := if s.has .streams then s.streams else []

/-- The health of the service: degraded once a stream gave up. -/
def health (s : AdminServer) : String :=
  if s.reported.any (·.fatal.isSome) then "degraded" else "ok"

/-- Why a request to a protected route is refused when the machine's clock reads `clockMs`
(unix milliseconds), if it is. -/
def refusal? (s : AdminServer) (req : AdminRequest) (clockMs : Int) : Option AdminResponse :=
  let missing := AdminResponse.failure 401 "MISSING_TOKEN" "missing Authorization header"
  let malformed := AdminResponse.failure 401 "INVALID_AUTH_HEADER" "invalid Authorization header"
  match req.header? "Authorization" with
  | none => some missing
  | some h =>
    if h.isEmpty then some missing
    else
      match h.splitOn " " with
      | scheme :: rest@(_ :: _) =>
        if !String.equalFold scheme "Bearer" then some malformed
        else
          match Token.accepts s.config.secret clockMs (" ".intercalate rest) with
          | some _ => none
          | none => some (AdminResponse.failure 401 "INVALID_TOKEN" "invalid or expired token")
      | _ => some malformed

/-- The answer of a reconciliation request: the server's reconciler runs on the desk under a
run id. -/
def runReconcile (s : AdminServer) (d : Desk) (req : AdminRequest) (runId : String) :
    AdminResponse × AdminServer × Desk :=
  match reconcileOptions req.body with
  | .error refusal => (refusal, s, d)
  | .ok opts =>
    let own := d.reconciler
    let (answer, d) := answerOnDesk { d with reconciler := s.reconciler }
      (Desk.reconcile runId opts) Report.body
    (answer, { s with reconciler := d.reconciler }, { d with reconciler := own })

/-- The answer of a route's handler, with the server and desk after it. -/
def handle (s : AdminServer) (d : Desk) (req : AdminRequest) (runId : String) :
    Route → AdminResponse × AdminServer × Desk
  | .health =>
    (AdminResponse.json 200 (.obj [("status", .str s.health), ("version", .str s.config.version)]),
      s, d)
  | .streams =>
    (AdminResponse.encoded 200 (do
      pure (.obj [("streams", .arr (← s.reported.mapM Connection.statusBody))])), s, d)
  | .positions trader =>
    if !s.has .positions then (AdminResponse.unavailable "position manager", s, d)
    else
      let (answer, d) := answerOnDesk d (Desk.positions trader) fun ps => do
        pure (.obj [("trader_id", .str trader), ("positions", .arr (← ps.mapM Position.body))])
      (answer, s, d)
  | .trades =>
    if !s.has .ledger then (AdminResponse.unavailable "ledger", s, d)
    else
      match tradesQuery req with
      | .error msg => (AdminResponse.failure 400 "INVALID_QUERY" msg, s, d)
      | .ok (trader, limit) =>
        match d.store.byTrader trader limit with
        | .ok ts =>
          (AdminResponse.encoded 200 (do
            let items ← ts.mapM Trade.body
            pure (.obj [("trades", if ts.isEmpty then .null else .arr items)])), s, d)
        | .error f => (AdminResponse.ofFault f, s, d)
  | .balances =>
    if !s.has .balances then (AdminResponse.unavailable "balance state", s, d)
    else (AdminResponse.encoded 200 (d.balances.body d.now), s, d)
  | .prices =>
    if !s.has .prices then (AdminResponse.unavailable "price cache", s, d)
    else (AdminResponse.encoded 200 (d.prices.body d.now), s, d)
  | .cooldowns =>
    if !s.has .cooldowns then (AdminResponse.unavailable "cooldown manager", s, d)
    else
      let active := d.cooldowns.active d.now ((req.query? "symbol").getD "")
        ((req.query? "trader").getD "")
      (AdminResponse.encoded 200 (do
        pure (.obj [("cooldowns", .arr (← active.mapM Cooldown.body))])), s, d)
  | .metrics =>
    if !s.has .metrics then (AdminResponse.unavailable "metrics", s, d)
    else
      let body : Except String Json := do
        let venue ← if s.has .venue then do
            pure [("venue", ← venueBody (s.venue.1.usage d.now) s.venue.2)]
          else pure []
        pure (.obj ([("metrics", ← d.metrics.body d.now),
          ("notifications", NotifyStats.body {})] ++ venue))
      (AdminResponse.encoded 200 body, s, d)
  | .reconcile =>
    if !s.has .reconciler then (AdminResponse.unavailable "reconciliation", s, d)
    else s.runReconcile d req runId
  | .reconcileRuns =>
    if !s.has .ledger then (AdminResponse.unavailable "ledger", s, d)
    else
      match d.store.recentRuns 20 with
      | .ok rs =>
        (AdminResponse.encoded 200 (do
          let items ← rs.mapM RunRow.body
          pure (.obj [("runs", if rs.isEmpty then .null else .arr items)])), s, d)
      | .error f => (AdminResponse.ofFault f, s, d)
  | .admitTrade id =>
    if !s.has .positions then (AdminResponse.unavailable "position manager", s, d)
    else
      let (answer, d) := answerOnDesk d (Desk.admitTrade id) Outcome.body
      (answer, s, d)
  | .replaceTrade id =>
    if !s.has .positions then (AdminResponse.unavailable "position manager", s, d)
    else
      match replaceRequest req.body with
      | .error msg => (AdminResponse.failure 400 "INVALID_PAYLOAD" msg, s, d)
      | .ok (trader, symbol, side) =>
        let (answer, d) := answerOnDesk d
          (Desk.replaceTrade trader (String.toUpperSimple symbol) (TradeSide.ofText side) id)
          Outcome.body
        (answer, s, d)

/-- Answer a request at the desk. `fresh` is the id a request without one is given, `runId`
the id a reconciliation run would take, and `clockMs` the machine's clock that tokens are
checked against. -/
def serve (s : AdminServer) (d : Desk) (req : AdminRequest) (fresh runId : String)
    (clockMs : Int) : AdminResponse × AdminServer × Desk :=
  let route := Route.find? req.method req.path
  if route.isNone && req.path != "/" && Route.redirects req.method req.path then
    (redirectAnswer req, s, d)
  else
    let (allowed, limits) := s.limits.allow req.clientIp
    let s := { s with limits }
    let (answer, s, d) :=
      if !allowed then
        (AdminResponse.failure 429 "RATE_LIMITED" "too many requests, please slow down", s, d)
      else
        match route with
        | none => (AdminResponse.notFound, s, d)
        | some r =>
          match (if r.isProtected then s.refusal? req clockMs else none) with
          | some refusal => (refusal, s, d)
          | none => s.handle d req runId r
    ({ answer with requestId := some (requestIdOf req fresh) }, s, d)

end AdminServer

end TradeLedger
