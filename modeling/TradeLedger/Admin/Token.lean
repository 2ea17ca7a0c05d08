import TradeLedger.Digest.Hmac
import TradeLedger.Text.Base64
import TradeLedger.Json.GoText
import TradeLedger.Json.Read
import TradeLedger.Number.Read
import TradeLedger.Json.Decode
import TradeLedger.Admin.Bind
import TradeLedger.Time.Instant
/-!
# Admin tokens

Operators reach the admin API with a JSON Web Token: three dot-joined parts in unpadded URL-safe
base64, a header naming the algorithm, the claims, and the HMAC-SHA256 under the shared secret
of the first two parts. A token is accepted when its header's last `alg` member is `HS256`, the
signature is the digest, the claims read, it is valid at the machine's clock, and it names an
operator. Claims are read as the service reads its claims structure: a member sets the claim of
its key, else of its key up to case; times are numbers or texts holding one, cut toward zero,
and the seconds since year 1 wrap in 64 bits.

## Main definitions

* `TokenClaims`, `TokenClaims.ofJson`: the claims, as read.
* `sign`, `accepts`: a token for claims, and whether a token is accepted.
-/

namespace TradeLedger

/-- What a token says: the operator, the subject, and when it expires, was issued and starts
being valid, in seconds since the epoch. -/
structure TokenClaims where
  operator : String
  subject : String := ""
  expiresAt : Option Float := none
  issuedAt : Option Float := none
  notBefore : Option Float := none
  deriving Repr, Inhabited

namespace TokenClaims

/-- A time of the claims, in whole seconds. -/
def seconds (x : Float) : Json :=
  if x.floor == x then Json.ofInt (if x < 0 then -((-x).toUInt64.toNat : Int) else x.toUInt64.toNat)
  else Json.ofFloat x

/-- The JSON form of the claims: the operator always, the rest when set, in the order the
standard lists them. -/
def toJson (c : TokenClaims) : Json :=
  let time (key : String) : Option Float → List (String × Json)
    | some x => [(key, seconds x)]
    | none => []
  .obj ([("op", .str c.operator)] ++ (if c.subject.isEmpty then [] else [("sub", .str c.subject)]) ++
    time "exp" c.expiresAt ++ time "nbf" c.notBefore ++ time "iat" c.issuedAt)

/-- The claims a token may carry, by key. -/
def keys : List String := ["op", "iss", "sub", "aud", "exp", "nbf", "iat", "jti"]

/-- The claim a member sets: the one with its key, else the one with its key up to case. -/
def keyFor? (key : String) : Option String :=
  if keys.contains key then some key
  else keys.find? fun k => foldMemberKey k == foldMemberKey key

/-- A time claim's value: unset by `null`, else seconds from a number or from a text that holds
exactly a JSON number. -/
def timeOf : Json → Except String (Option Float)
  | .null => .ok none
  | .num t => seconds? t
  | .str t => if Json.isNumberText t then seconds? t else .error "invalid number literal"
  | _ => .error "invalid type for a time"
where
  /-- The seconds a numeral gives, if it is in range. -/
  seconds? (t : String) : Except String (Option Float) :=
    match readFloatText t with
    | .ok x => .ok (some x)
    | .error _ => .error "number out of range"

/-- Whether a value can be an audience: `null`, a text, or a list of texts. -/
def isAudience : Json → Bool
  | .null | .str _ => true
  | .arr items => items.all fun
    | .str _ => true
    | _ => false
  | _ => false

/-- A text claim's value: kept by `null`, else a text. -/
def textOf (old : String) : Json → Except String String
  | .null => .ok old
  | .str s => .ok s
  | _ => .error "invalid type for a text"

/-- The claims with one member read into them. -/
def setMember (c : TokenClaims) (m : String × Json) : Except String TokenClaims :=
  match keyFor? m.1 with
  | some "op" => do pure { c with operator := ← textOf c.operator m.2 }
  | some "sub" => do pure { c with subject := ← textOf c.subject m.2 }
  | some "exp" => do pure { c with expiresAt := ← timeOf m.2 }
  | some "nbf" => do pure { c with notBefore := ← timeOf m.2 }
  | some "iat" => do pure { c with issuedAt := ← timeOf m.2 }
  | some "aud" => if isAudience m.2 then .ok c else .error "invalid type for an audience"
  | some _ => do
    let _ ← textOf "" m.2
    pure c
  | none => .ok c

/-- Read claims from their JSON form. -/
def ofJson (j : Json) : Except String TokenClaims :=
  match j with
  | .null => .ok { operator := "" }
  | .obj members => members.foldlM setMember { operator := "" }
  | _ => .error "claims are not an object"

/-- Whole 64-bit seconds since year 1 of a claimed time, as the machine holds it, with no
nanoseconds: the whole seconds and the nanoseconds of the fraction are cut toward zero,
nanoseconds outside a second carry into the seconds, the seconds wrap in 64 bits, and the time
is then cut down to its second, as claims hold whole seconds only. -/
def machineTime (x : Float) : Int × Int :=
  let whole := if x < 0 then -((-x).floor) else x.floor
  let nsec := truncateToInt64 ((x - whole) * 1000000000)
  (Int.bmod (truncateToInt64 whole + nsec.fdiv 1000000000 + 62135596800) (Nat.pow 2 64), 0)

/-- A clock reading in unix milliseconds as whole seconds and nanoseconds since year 1. -/
def clockTime (ms : Int) : Int × Int :=
  (ms.fdiv 1000 + 62135596800, ms.fmod 1000 * 1000000)

/-- Whether one time is before another. -/
def before (a b : Int × Int) : Bool := a.1 < b.1 || (a.1 == b.1 && a.2 < b.2)

/-- Whether claims are valid at a clock reading in unix milliseconds: before their expiry, and
not before their start. -/
def validAt (c : TokenClaims) (nowMs : Int) : Bool :=
  let now := clockTime nowMs
  (match c.expiresAt with
    | some e => before now (machineTime e)
    | none => true) &&
  (match c.notBefore with
    | some b => !before now (machineTime b)
    | none => true)

end TokenClaims

namespace Token

/-- The header of a token signed with HS256. -/
def header : Json := .obj [("alg", .str "HS256"), ("typ", .str "JWT")]

/-- The URL-safe base64 text of a text's bytes. -/
def segment (s : String) : String := Base64.encode .url (Utf8.encode s)

/-- The signature of the signed part of a token under a secret. -/
def signature (secret signed : String) : String :=
  Base64.encode .url (hmacSha256 (Utf8.encode secret) (Utf8.encode signed))

/-- The token of some claims with a header, its signed part digested with HMAC-SHA256 under a
secret. A header that names another algorithm gives a token an HS256 reader refuses. -/
def signUnder (hdr : Json) (secret : String) (c : TokenClaims) : String :=
  let signed := segment (Json.renderWeb hdr) ++ "." ++ segment (Json.renderWeb c.toJson)
  signed ++ "." ++ signature secret signed

/-- The token of some claims under a secret. -/
def sign (secret : String) (c : TokenClaims) : String := signUnder header secret c

/-- The bytes a segment holds, read leniently. -/
def segmentBytes (s : String) : Except String (List UInt8) :=
  match Base64.decodeLenient? .url s with
  | none => .error "illegal base64 data"
  | some bytes => .ok bytes

def segmentJson (s : String) : Except String Json := do
  Json.decodeDocument (← segmentBytes s)

/-- Whether a header names HS256: it is an object whose last `alg` member is that text. -/
def namesHs256 : Json → Bool
  | .obj members =>
    match (members.filter (·.1 == "alg")).getLast? with
    | some (_, .str "HS256") => true
    | _ => false
  | _ => false

/-- The claims of a token, when its header names HS256 and its signature is the digest under
the secret. -/
def open? (secret : String) (token : String) : Except String TokenClaims := do
  match token.splitOn "." with
  | [h, c, s] =>
    let hdr ← segmentJson h
    let claims ← TokenClaims.ofJson (← segmentJson c)
    if !namesHs256 hdr then throw "signing method is invalid"
    let sig ← segmentBytes s
    if hmacSha256 (Utf8.encode secret) (Utf8.encode (h ++ "." ++ c)) != sig then
      throw "signature is invalid"
    pure claims
  | _ => throw "token is malformed"

/-- The operator of a token accepted at a clock reading in unix milliseconds: signed under the
secret, valid then, and naming an operator. -/
def accepts (secret : String) (nowMs : Int) (token : String) : Option String :=
  match open? secret token with
  | .ok c => if c.validAt nowMs && !c.operator.isEmpty then some c.operator else none
  | .error _ => none

end Token

end TradeLedger
