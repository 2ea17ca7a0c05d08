/-!
# The key-value server

Cooldowns can be persisted to a Redis server, and notifications published on one. The server
holds keys with a value and an optional time to live; its clock does not move. The network
refuses every connection, so each command a client sends fails, and only keys seeded or written
directly change what it holds.

## Main definitions

* `KeyStore`: the server's keys.
-/

namespace TradeLedger

/-- The text of a connection the network refuses. The address is masked. -/
def dialRefused : String := "dial tcp <addr>: connect: network is unreachable"

/-- One key: its value and its time to live in milliseconds, if any. -/
structure KeyEntry where
  key : String
  value : String
  ttl : Option Int := none
  deriving Repr, Inhabited

/-- The keys a server holds, and the error text its commands are set to fail with. -/
structure KeyStore where
  entries : List KeyEntry := []
  failure : String := ""
  deriving Repr, Inhabited

namespace KeyStore

/-- Set a key, replacing any earlier value and time to live. -/
def set (s : KeyStore) (e : KeyEntry) : KeyStore :=
  { s with entries := (s.entries.filter (·.key != e.key)) ++ [e] }

/-- Remove a key. -/
def delete (s : KeyStore) (key : String) : KeyStore :=
  { s with entries := s.entries.filter (·.key != key) }

/-- The keys in byte order of their names. -/
def sorted (s : KeyStore) : List KeyEntry :=
  s.entries.mergeSort fun a b => decide (a.key ≤ b.key)

end KeyStore

end TradeLedger
