import TradeLedger.Network.Url
/-!
# Dialing where the network refuses

The service runs here on a machine whose network refuses every connection. An address is refused
as `dial tcp` and the address with its port; a name has to be looked up first, and the lookup
finds nothing; a websocket target must first read as a URL with the scheme `ws` or `wss` and no
user, its port 80 or 443 by the scheme when it gives none.

## Main definitions

* `dialFailure`, `websocketDialFailure`: what a refused dial says.
-/

namespace TradeLedger

/-- The refusal of a connection to an address with its port. -/
def dialFailure (addr : String) : String :=
  "dial tcp " ++ addr ++ ": connect: network is unreachable"

/-- The refusal of a websocket target that is not a websocket URL. -/
def malformedWebsocketUrl : String := "malformed ws or wss URL"

namespace Url.Parts

/-- The host and port a websocket URL is dialed at: its own port, else 443 for `wss` and 80
otherwise. -/
def hostPort (p : Url.Parts) : String :=
  let bs := Utf8.encode p.host
  let hasPort := match Url.lastIndex? bs 58, Url.lastIndex? bs 93 with
    | some c, some b => decide (b < c)
    | some _, none => true
    | none, _ => false
  if hasPort then p.host else p.host ++ (if p.scheme == "wss" then ":443" else ":80")

/-- The host without its port. -/
def hostName (p : Url.Parts) : String :=
  let bs := Utf8.encode p.host
  match Url.lastIndex? bs 58, Url.lastIndex? bs 93 with
  | some c, some b => if c > b then Utf8.lossy (bs.take c) else p.host
  | some c, none => Utf8.lossy (bs.take c)
  | none, _ => p.host

/-- Whether the host is an address rather than a name: bracketed, or digits and dots. -/
def isAddress (p : Url.Parts) : Bool :=
  let name := p.hostName
  name.startsWith "[" || (!name.isEmpty && name.toList.all fun c => c.isDigit || c == '.')

end Url.Parts

/-- Why a websocket dial to a target fails: the target does not read, is not a websocket URL,
names a host that no lookup finds, or is refused at its address. -/
def websocketDialFailure (target : String) : String :=
  match Url.read target with
  | .error e => e
  | .ok p =>
    if !(p.scheme == "ws" || p.scheme == "wss") || p.hasUser then malformedWebsocketUrl
    else if p.isAddress then dialFailure p.hostPort
    else "dial tcp: lookup " ++ p.hostName ++ ": no such host"

end TradeLedger
