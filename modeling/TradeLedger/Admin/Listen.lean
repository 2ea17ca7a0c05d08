import TradeLedger.Network.Ip
/-!
# Listening at an address

The admin API serves at an address `host:port` (an empty address means port 80 on every
interface). The port follows the last colon, a host with a colon of its own bracketed; it is a
number from 0 to 65535 or the name of a well-known service. The host is empty, an address of
this machine, or a name to look up; the machine has no other interface, and a lookup finds only
the loopback name. Each failure is reported after `listen tcp`.

## Main definitions

* `splitHostPort`, `portOf`: the parts of an address.
* `failure?`: why binding to an address fails, if it does.
-/

namespace TradeLedger

namespace Listen

/-- The port of a well-known service name, in lower case. -/
def wellKnownPort? (service : String) : Option Nat :=
  match service with
  | "ftp" => some 21
  | "ftps" => some 990
  | "gopher" => some 70
  | "http" => some 80
  | "https" => some 443
  | "imap2" => some 143
  | "imap3" => some 220
  | "imaps" => some 993
  | "pop3" => some 110
  | "pop3s" => some 995
  | "smtp" => some 25
  | "submissions" => some 465
  | "ssh" => some 22
  | "telnet" => some 23
  | _ => none

/-- A refused address, with why. -/
def addressError (addr why : String) : String := "address " ++ addr ++ ": " ++ why

/-- The host and port of an address: the port follows the last colon; a bracketed host ends
just before it, and an unbracketed one holds no colon. -/
def splitHostPort (addr : String) : Except String (String × String) :=
  let cs := addr.toList
  match cs.reverse.findIdx? (· == ':') with
  | none => .error (addressError addr "missing port in address")
  | some fromEnd =>
    let i := cs.length - 1 - fromEnd
    let port := String.ofList (cs.drop (i + 1))
    if cs.head? == some '[' then
      match cs.findIdx? (· == ']') with
      | none => .error (addressError addr "missing ']' in address")
      | some close =>
        if close + 1 == cs.length then .error (addressError addr "missing port in address")
        else if close + 1 != i then
          if cs.getD (close + 1) ' ' == ':' then .error (addressError addr "too many colons in address")
          else .error (addressError addr "missing port in address")
        else
          let host := String.ofList ((cs.take close).drop 1)
          if (cs.drop 1).contains '[' then .error (addressError addr "unexpected '[' in address")
          else if (cs.drop (close + 1)).contains ']' then
            .error (addressError addr "unexpected ']' in address")
          else .ok (host, port)
    else
      let host := cs.take i
      if host.contains ':' then .error (addressError addr "too many colons in address")
      else if cs.contains '[' then .error (addressError addr "unexpected '[' in address")
      else if cs.contains ']' then .error (addressError addr "unexpected ']' in address")
      else .ok (String.ofList host, port)

/-- The number of a port: empty is 0; a signed decimal number must lie in 0 to 65535 (one
too large to count stands for its cap); anything else must name a well-known service. -/
def portOf (port : String) : Except String Nat :=
  if port.isEmpty then .ok 0
  else
    let cs := port.toList
    let (negative, digits) := match cs with
      | '+' :: rest => (false, rest)
      | '-' :: rest => (true, rest)
      | _ => (false, cs)
    if digits.all Char.isDigit then
      let n := digits.foldl (fun n c => min (Nat.pow 2 30) (n * 10 + (c.toNat - 48))) 0
      if negative && n != 0 then .error (addressError port "invalid port")
      else if 65535 < n then .error (addressError port "invalid port")
      else .ok n
    else
      match wellKnownPort? (String.ofList (cs.map Char.toLower)) with
      | some n => .ok n
      | none => .error ("lookup tcp/" ++ port ++ ": unknown port")

/-- Whether the machine can bind an address: a loopback or unspecified one. -/
def isLocal (host : String) : Bool :=
  host.startsWith "127." || host == "0.0.0.0" || host == "::" || host == "::1" ||
    host == "0:0:0:0:0:0:0:0" || host == "0:0:0:0:0:0:0:1"

/-- Why the service cannot listen at an address, if it cannot. -/
def failure? (addr : String) : Option String :=
  let addr := if addr.isEmpty then ":http" else addr
  match splitHostPort addr with
  | .error e => some ("listen tcp: " ++ e)
  | .ok (host, port) =>
    match portOf port with
    | .error e => some ("listen tcp: " ++ e)
    | .ok n =>
      if host.isEmpty || host == "localhost" then none
      else if Ip.isAddress host then
        if isLocal host then none
        else
          let shown := if host.contains ':' then "[" ++ host ++ "]" else host
          some ("listen tcp " ++ shown ++ ":" ++ toString n ++ ": bind: cannot assign requested address")
      else some ("listen tcp: lookup " ++ host ++ ": no such host")

end Listen

end TradeLedger
