import TradeLedger.Admin.Listen
import TradeLedger.Admin.Server
import TradeLedger.Command.ConnectionSteps
import TradeLedger.Command.ReconcileSteps
/-!
# Admin API steps of the ledger command

The ledger's admin API is built from the request's `api` member the first time a step needs it,
wired to the ledger's own services, and then sent requests, with a token the step asks for or a
header given as it is; or asked whether it can listen at an address. An answer shows the status,
content type, body and request id, with the machine's own figures masked.

## Main definitions

* `adminStep?`: one admin step of the ledger command.
* `maskBody`: the answer with the machine's figures masked.
-/

namespace TradeLedger

namespace Command

/-- The address of a closed loopback port. -/
def closedPortAddr : String := "127.0.0.1:9"

/-- A stream connection the admin API reports on: one that never started, or with `fatal`,
one that dialed a closed port, giving up after its second error in a row with a millisecond
between its dials. -/
def adminStream (j : Json) : Input Connection := do
  let name ← Input.text j "name"
  if !(← Input.flag j "fatal") then
    return Connection.create { name } none
  let config : StreamConfig := {
    name
    url := "ws://" ++ closedPortAddr ++ "/stream"
    maxConsecutiveErrors := 1
    backoffInitial := Duration.perMs
    backoffMax := Duration.perMs }
  let c := Connection.create config none
  let (c, keys, _) := c.start ScriptedKeys.client {}
  let (c, _) := c.advance ScriptedKeys.client keys (c.clock + doneWait) (·.done)
  pure c

/-- The admin API an `api` member describes: its tuning, the collaborators it lists (all of
them when it lists none), its stream connections and its reconciler. -/
def adminServerOf (api : Json) : Input AdminServer := do
  let config : AdminConfig := {
    secret := ← Input.text api "jwt_secret"
    rateLimit := ← Input.float api "rate_limit"
    rateBurst := ← Input.int api "rate_burst"
    version := ← Input.text api "version" }
  let attached ← match Input.arg? api "attach" with
    | none => pure Collaborator.all
    | some _ => do pure ((← Input.texts api "attach").filterMap Collaborator.ofName?)
  let streams ← (← Input.list api "streams").mapM adminStream
  let reconciler ← reconcilerOf (← Input.object api "reconcile")
  pure (AdminServer.create config attached streams reconciler)

def LedgerRun.withAdmin (r : LedgerRun) : Input (LedgerRun × AdminServer) := do
  match r.admin with
  | some s => pure (r, s)
  | none =>
    let s ← adminServerOf r.api
    pure ({ r with admin := some s }, s)

/-- The ways a step can ask for a token. -/
def tokenKinds : List String := ["none", "valid", "expired", "wrong_secret", "hs512", "garbage"]

/-- The header of a token that names HS512. -/
def hs512Header : Json := .obj [("alg", .str "HS512"), ("typ", .str "JWT")]

/-- The token a step asks for when the machine's clock reads `clockMs` (unix milliseconds), for
an operator under a secret: none, or the token, or why it cannot be signed. Its times are whole
seconds. -/
def tokenOf (kind operator secret : String) (clockMs : Int) : Except String (Option String) :=
  let at0 := Float.ofInt (clockMs.fdiv 1000)
  let claims (expires : Float) : TokenClaims :=
    { operator, subject := operator, expiresAt := some expires, issuedAt := some at0 }
  match kind with
  | "valid" =>
    if secret.isEmpty then .error "jwt secret is empty"
    else .ok (some (Token.sign secret (claims (at0 + 3600))))
  | "expired" =>
    if secret.isEmpty then .error "jwt secret is empty"
    else .ok (some (Token.sign secret (claims (at0 - 3600))))
  | "wrong_secret" => .ok (some (Token.sign ("not-" ++ secret) (claims (at0 + 3600))))
  | "hs512" => .ok (some (Token.signUnder hs512Header secret (claims (at0 + 3600))))
  | "garbage" => .ok (some "not-a-token")
  | _ => .ok none

/-- The `Authorization` header an `http` step asks for, if any, or why its token cannot be
signed: the header given as it is, or the scheme (`Bearer` unless given) and the token. -/
def authorizationOf (j : Json) (secret : String) (clockMs : Int) :
    Input (Except String (Option String)) := do
  let kind ← Input.text j "auth"
  let kind := if kind.isEmpty then "none" else kind
  if !tokenKinds.contains kind then throw ("unknown auth " ++ quoteText kind)
  if let some (.str h) := Input.arg? j "authorization" then return .ok (some h)
  let operator ← match Input.arg? j "operator" with
    | none => pure "oracle"
    | some _ => Input.text j "operator"
  let scheme ← Input.text j "scheme"
  let scheme := if scheme.isEmpty then "Bearer" else scheme
  pure ((tokenOf kind operator secret clockMs).map fun token => token.map (scheme ++ " " ++ ·))

/-- The headers an `http` step sends besides its authorization. -/
def stepHeaders (j : Json) : Input (List (String × String)) := do
  match ← Input.object j "headers" with
  | .obj fs => fs.mapM fun (k, v) => match v with
    | .str s => pure (k, s)
    | other => Input.refuse k ("expected a string, got " ++ other.render)
  | _ => pure []

mutual
/-- A value with every loopback address in its texts masked. -/
def maskAddresses : Json → Json
  | .str s => .str (maskLoopback s)
  | .arr items => .arr (maskItems items)
  | .obj fields => .obj (maskMembers fields)
  | other => other

/-- Items with their loopback addresses masked. -/
def maskItems : List Json → List Json
  | [] => []
  | j :: rest => maskAddresses j :: maskItems rest

/-- Members with their loopback addresses masked. -/
def maskMembers : List (String × Json) → List (String × Json)
  | [] => []
  | (k, v) :: rest => (k, maskAddresses v) :: maskMembers rest
end

/-- An object with the value of a member replaced, when it has the member. -/
def replaceMember (j : Json) (key : String) (f : Json → Json) : Json :=
  match j with
  | .obj fields => .obj (fields.map fun (k, v) => if k == key then (k, f v) else (k, v))
  | other => other

/-- Latency statistics with every figure but the count masked once something was measured. -/
def maskLatency (stats : Json) : Json :=
  match stats.field? "count" with
  | some (.num "0") => stats
  | _ =>
    match stats with
    | .obj fields => .obj (fields.map fun (k, v) => if k == "count" then (k, v) else (k, .str "<elapsed>"))
    | other => other

/-- A metrics snapshot with the machine's figures masked. -/
def maskMetrics (m : Json) : Json :=
  let m := replaceMember m "timestamp" fun _ => .str "<now>"
  let m := replaceMember m "goroutine_count" fun _ => .str "<runtime>"
  let m := replaceMember m "heap_alloc_bytes" fun _ => .str "<runtime>"
  ["dispatch_latency", "sync_latency", "conflict_latency"].foldl
    (fun m key => replaceMember m key maskLatency) m

/-- An answer's body with what the machine makes up masked. -/
def maskBody (route : Option Route) (balancesSynced : Bool) (body : Json) : Json :=
  let body := replaceMember body "run_id" fun _ => .str "<ulid>"
  let body := match route with
    | some .metrics => replaceMember body "metrics" maskMetrics
    | some .balances =>
      if balancesSynced then replaceMember body "last_sync" fun _ => .str "<now>" else body
    | _ => body
  maskAddresses body

/-- The `n`-th request id the API makes up. -/
def requestIdAt (n : Nat) : String := "00000000-0000-4000-9000-" ++ hexDigits 12 n

/-- An answer of the admin API as a step answers it; `sentId` tells whether the request sent
its own id. -/
def responseJson (resp : AdminResponse) (sentId : Bool) (body : Json → Json) : Json :=
  let content := match resp.payload with
    | .json b => ("body", body b)
    | .text t => ("text", .str t)
  let id := if sentId then ("request_id", .str (resp.requestId.getD ""))
    else ("request_id_generated", .bool ((resp.requestId.map (·.length == 36)).getD false))
  .obj [("status", Json.ofNat resp.status), ("content_type", .str resp.contentType), content, id]

/-- `http`: one request to the admin API. -/
def httpStep (r : LedgerRun) (j : Json) : Input (LedgerRun × Json) := do
  let (r, s) ← r.withAdmin
  let d := r.desk
  match ← authorizationOf j s.config.secret r.machineMs with
  | .error e => pure (r, .obj [("token_error", .str e)])
  | .ok auth =>
    let method ← Input.text j "method"
    let method := if method.isEmpty then "GET" else method
    let sent ← stepHeaders j
    let headers := sent ++ match auth with
      | some h => [("Authorization", h)]
      | none => []
    let body ← match Input.arg? j "body" with
      | none => pure none
      | some _ => some <$> Input.text j "body"
    let remote ← Input.text j "remote"
    let remote := if remote.isEmpty then "192.0.2.1" else remote
    let req := AdminRequest.ofTarget method (← Input.text j "path") headers body remote
    let route := Route.find? req.method req.path
    let (resp, s, d) := s.serve d req (requestIdAt r.requests) (runIdOf r.runsStarted) r.machineMs
    let runs := if route == some .reconcile then r.runsStarted + 1 else r.runsStarted
    let r := { r with desk := d, admin := some s, requests := r.requests + 1, runsStarted := runs }
    let sentId := sent.any (·.1 == "X-Request-ID")
    pure (r, responseJson resp sentId (maskBody route d.balances.synced))

/-- `serve_start`: whether the admin API can listen at an address. -/
def serveStart (r : LedgerRun) (j : Json) : Input (LedgerRun × Json) := do
  let (r, _) ← r.withAdmin
  match Listen.failure? (← Input.text j "addr") with
  | some e => pure (r, .obj [("error", .str e)])
  | none => pure (r, .obj [("ok", .bool true)])

def adminStep? (r : LedgerRun) (j : Json) : Option (Input (LedgerRun × Json)) :=
  match Input.text j "op" with
  | .ok "http" => some (httpStep r j)
  | .ok "serve_start" => some (serveStart r j)
  | _ => none

end Command

end TradeLedger
