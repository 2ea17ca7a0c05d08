import TradeLedger.Trade.Basic
/-!
# Which trade and leg an order belongs to

Orders are found by their venue id or client id. When neither is on record, the raw payloads
of the trades are searched for the id as a whole token: a match must have no letter, digit,
underscore or hyphen on either side, so `123` is not found in `1234`. A trade's exit leg is the
order recorded as its close order; an order found only through a payload is the exit when it
trades against the trade's direction.

## Main definitions

* `containsId`: the whole-token search.
* `legOf`: the leg an order belongs to.

## Theorems

* `firstIndex?_eq_some`, `firstIndex?_eq_none`, `standsAlone_iff`: what the search finds.
-/

namespace TradeLedger

/-- Letters, digits, underscore and hyphen. -/
def isIdChar (b : UInt8) : Bool :=
  (48 ≤ b && b ≤ 57) || (97 ≤ b && b ≤ 122) || (65 ≤ b && b ≤ 90) || b == 95 || b == 45

/-- The first offset into `bytes` at which `id` begins, if any; an empty `id` begins at once. -/
def firstIndex? (id bytes : List UInt8) : Option Nat :=
  (List.range (bytes.length + 1)).find? fun i => id.isPrefixOf (bytes.drop i)

theorem firstIndex?_eq_some {id bytes : List UInt8} {i : Nat} (h : firstIndex? id bytes = some i) :
    i + id.length ≤ bytes.length ∧ id <+: bytes.drop i ∧ ∀ j < i, ¬ id <+: bytes.drop j := by
  obtain ⟨hp, hi, hfirst⟩ := List.find?_range_eq_some.1 h
  have hocc := List.isPrefixOf_iff_prefix.1 hp
  have hle := hocc.length_le
  rw [List.length_drop] at hle
  have hi := List.mem_range.1 hi
  refine ⟨by omega, hocc, fun j hj hpj => ?_⟩
  simpa [List.isPrefixOf_iff_prefix.2 hpj] using hfirst j hj

theorem firstIndex?_eq_none {id bytes : List UInt8} (h : firstIndex? id bytes = none) (j : Nat) :
    ¬ id <+: bytes.drop j := by
  -- past the end every offset leaves nothing, as the end itself does
  have hj : bytes.drop j = bytes.drop (min j bytes.length) := by
    by_cases hle : j ≤ bytes.length
    · rw [Nat.min_eq_left hle]
    · rw [Nat.min_eq_right (by omega), List.drop_eq_nil_of_le (by omega), List.drop_length]
  rw [hj, ← List.isPrefixOf_iff_prefix]
  exact List.find?_eq_none.1 h (min j bytes.length) (List.mem_range.2 (by omega))

/-- Whether the bytes of `raw` from `start` up to `stop` stand alone: the byte before them and
the byte after them, where there is one, is no id character. -/
def standsAlone (raw : List UInt8) (start stop : Nat) (h : start < stop ∧ stop ≤ raw.length) :
    Bool :=
  (start == 0 || !isIdChar raw[start - 1]) &&
    if hend : stop = raw.length then true else !isIdChar raw[stop]

theorem standsAlone_iff {raw : List UInt8} {start stop : Nat} {h} :
    standsAlone raw start stop h = true ↔
      (start = 0 ∨ ∃ b, raw[start - 1]? = some b ∧ isIdChar b = false) ∧
      (stop = raw.length ∨ ∃ b, raw[stop]? = some b ∧ isIdChar b = false) := by
  unfold standsAlone
  by_cases hend : stop = raw.length
  · simp [hend, List.getElem?_eq_getElem (show start - 1 < raw.length by omega)]
  · simp [hend, List.getElem?_eq_getElem (show start - 1 < raw.length by omega),
      List.getElem?_eq_getElem (show stop < raw.length by omega)]

/-- The search loop over `raw` from offset `start`: find the next occurrence of `id` and accept
it if it stands alone, else search again from the byte after where it starts, so that an
occurrence overlapping it is still seen. The offset never passes the end of `raw`, every byte
read lies inside it, and each round moves the offset forward. -/
def searchFrom (raw id : List UInt8) (hid : id ≠ []) (start : Nat) (hs : start ≤ raw.length) :
    Bool :=
  match h : firstIndex? id (raw.drop start) with
  | none => false
  | some i =>
    have hfit : start + i + id.length ≤ raw.length := by
      have := (firstIndex?_eq_some h).1
      rw [List.length_drop] at this
      omega
    have hpos : 0 < id.length := List.length_pos_iff.2 hid
    if standsAlone raw (start + i) (start + i + id.length) ⟨by omega, hfit⟩ then true
    else searchFrom raw id hid (start + i + 1) (by omega)
termination_by raw.length - start

/-- Whether `id` (non-empty) occurs in `raw` as a whole token. -/
def containsId (raw id : String) : Bool :=
  if h : id = "" then false
  else searchFrom (Utf8.encode raw) (Utf8.encode id) (mt Utf8.encode_eq_nil_iff.1 h) 0
    (Nat.zero_le _)

/-- The leg of an order found only through a payload: selling against a long trade or buying
against a short one closes it. -/
def inferLeg (t : Trade) (side : OrderSide) : Leg :=
  match t.side, side with
  | .long, .sell => .exit
  | .short, .buy => .exit
  | _, _ => .entry

/-- The leg of an order found by id: the exit when it is the trade's recorded close order. -/
def legOf (t : Trade) (orderId clientOrderId : String) : Leg :=
  if t.closeOrderId != "" && (t.closeOrderId == orderId || t.closeOrderId == clientOrderId) then
    .exit
  else .entry

end TradeLedger
