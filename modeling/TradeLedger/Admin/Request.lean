import TradeLedger.Network.Ip
import TradeLedger.Network.Url
import TradeLedger.Text.Blank
/-!
# Requests to the admin API

A request names a method and a target, the path and an optional query after `?`; it carries
headers and perhaps a body, and comes from a client address. The path is matched with its
escapes decoded; a query's pairs are decoded with `+` as a space, bad pairs dropped, and a key's
first value asked for; header names ignore ASCII case. Every server on the way is trusted, so
the client is the first entry of `X-Forwarded-For` (else `X-Real-IP`) when every entry reads.

## Main definitions

* `AdminRequest`: a request as the server reads it.
* `AdminRequest.query?`, `AdminRequest.clientIp`: a query value, and the client's address.
-/

namespace TradeLedger

/-- A request to the admin API: the method, the path with escapes decoded and as sent, the
raw query, the headers, the body, and the address it comes from. -/
structure AdminRequest where
  method : String
  path : String
  rawPath : String
  /-- the raw query, when the target has a `?` -/
  query : Option String := none
  headers : List (String × String) := []
  body : Option String := none
  remote : String
  deriving Repr, Inhabited

namespace AdminRequest

/-- A request to a target, which is split at its first `?` into the path and the query. -/
def ofTarget (method target : String) (headers : List (String × String)) (body : Option String)
    (remote : String) : AdminRequest :=
  let (rawPath, query) := match target.splitOn "?" with
    | [p] => (p, none)
    | p :: rest => (p, some ("?".intercalate rest))
    | [] => (target, none)
  { method, path := Utf8.lossy (Url.unescape (Utf8.encode rawPath)), rawPath, query, headers,
    body, remote }

/-- ASCII lower case of a text. -/
def lowerAscii (s : String) : String := String.ofList (s.toList.map Char.toLower)

/-- The value of a header, the last given under its name in any ASCII case. -/
def header? (r : AdminRequest) (name : String) : Option String :=
  (r.headers.reverse.find? fun h => lowerAscii h.1 == lowerAscii name).map (·.2)

/-- A query component with its escapes decoded and `+` as a space, when its escapes read. -/
def unescapeComponent (s : String) : Option String :=
  let bs := (Utf8.encode s).map fun b => if b == 43 then 32 else b
  match Url.escapeProblem .fragment bs with
  | some _ => none
  | none => some (Utf8.lossy (Url.unescape bs))

/-- The pairs of the query, in order. -/
def queryPairs (r : AdminRequest) : List (String × String) :=
  ((r.query.getD "").splitOn "&").filterMap fun pair =>
    if pair.isEmpty || pair.contains ';' then none
    else
      let (k, v) := match pair.splitOn "=" with
        | k :: rest => (k, "=".intercalate rest)
        | [] => (pair, "")
      match unescapeComponent k, unescapeComponent v with
      | some k, some v => some (k, v)
      | _, _ => none

/-- The first value of a query key. -/
def query? (r : AdminRequest) (key : String) : Option String :=
  ((r.queryPairs).find? (·.1 == key)).map (·.2)

/-- The client named by a forwarding header, when every entry of it is an address. -/
def forwardedClient? (r : AdminRequest) (name : String) : Option String :=
  match r.header? name with
  | none => none
  | some v =>
    if v.isEmpty then none
    else
      let entries := (v.splitOn ",").map String.trimBlank
      if entries.all Ip.isAddress then entries.head? else none

/-- The client address a request is counted against. -/
def clientIp (r : AdminRequest) : String :=
  if !Ip.isAddress r.remote then ""
  else ((r.forwardedClient? "X-Forwarded-For").orElse fun _ => r.forwardedClient? "X-Real-IP").getD
    r.remote

end AdminRequest

end TradeLedger
