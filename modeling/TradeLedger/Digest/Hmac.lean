import TradeLedger.Digest.Sha256
/-!
# Keyed digests

HMAC over SHA-256 (RFC 2104): a key longer than a block is hashed first, the key is padded with
zeros to a block, and the digest under the inner pad is hashed again under the outer pad.

## Main definitions

* `hmacSha256`: the keyed digest.
* `signRequest`: the signature of a venue request, in lower-case hexadecimal.
-/

namespace TradeLedger

/-- Bytes per SHA-256 block. -/
def sha256Block : Nat := 64

/-- The keyed digest of `msg` under `key`. -/
def hmacSha256 (key msg : List UInt8) : List UInt8 :=
  let key := if key.length > sha256Block then Sha256.hash key else key
  let key := key ++ List.replicate (sha256Block - key.length) 0
  let inner := Sha256.hash (key.map (· ^^^ 0x36) ++ msg)
  Sha256.hash (key.map (· ^^^ 0x5c) ++ inner)

/-- Lower-case hexadecimal text of bytes, two digits each. -/
def hexText (bs : List UInt8) : String :=
  let digit (n : Nat) : Char := if n < 10 then Char.ofNat (48 + n) else Char.ofNat (87 + n)
  String.ofList (bs.flatMap fun b => [digit (b.toNat / 16), digit (b.toNat % 16)])

/-- The signature of a payload under a secret: the hexadecimal keyed digest of their UTF-8
bytes. -/
def signRequest (payload secret : String) : String :=
  hexText (hmacSha256 secret.toUTF8.toList payload.toUTF8.toList)

end TradeLedger
