import Mathlib
import TradeLedger.Proofs.Number.Exact
import TradeLedger.Proofs.Venue.FillOrder
/-!
# Round trips partition the fills

The venue's closed positions are rebuilt by walking the fills in time order per symbol and
position side. A fill taken adds to the key's open round trip, goes against it, or opens one; a
fill bringing it back to zero closes it, and the rest of a flipping fill opens the next. A fill
is passed over when its quantity does not read or is not positive, or when it reports realized
profit while nothing of its key is open. The walk keeps only the open round trips and the floats
of closed ones; a journal walks along and keeps each closed round trip and the fill that closed
it.

## Main definitions

* `Journal`, `Journal.Inv`: the walk with its history, and what it keeps.

## Theorems

* `journal_inv`: the journal of a walk keeps the invariant.
* `buildPositionHistory_partitions_fills`: every fill's quantity, commission and profit are
  split exactly among the round trips.
-/

namespace TradeLedger

namespace Fill

/-- The key of a fill's round trip: its symbol and position side. -/
def key (f : Fill) : String := f.symbol ++ "|" ++ f.positionSide

/-- The fill's quantity, when it reads. -/
def qtyAmount? (f : Fill) : Option Decimal := Decimal.ofString? f.qty

/-- The fill's price; zero when it does not read. -/
def priceAmount (f : Fill) : Decimal := (Decimal.ofString? f.price).getD Decimal.zero

/-- The fill's commission; zero when it does not read. -/
def feeAmount (f : Fill) : Decimal := (Decimal.ofString? f.commission).getD Decimal.zero

/-- The fill's realized profit; zero when it does not read. -/
def pnlAmount (f : Fill) : Decimal := (Decimal.ofString? f.realizedPnl).getD Decimal.zero

/-- Whether the fill buys. -/
def buys (f : Fill) : Bool := f.side == "BUY"

end Fill

namespace RoundTrip

/-- Whether a fill on the side `buy` adds to the round trip. -/
def grows (rt : RoundTrip) (buy : Bool) : Bool :=
  (rt.net.isPositive && buy) || (rt.net.coeff < 0 && !buy)

/-- The round trip after a fill of `qty` that adds to it. -/
def grow (rt : RoundTrip) (qty price fee pnl : Decimal) (buy : Bool) : RoundTrip :=
  let net := if buy then rt.net.add qty else rt.net.sub qty
  let peak := if net.abs.gt rt.peak then net.abs else rt.peak
  { rt with net := net, peak := peak, entryQty := rt.entryQty.add qty,
            entryValue := rt.entryValue.add (qty.mul price),
            fee := rt.fee.add fee, pnl := rt.pnl.add pnl }

/-- The part of a fill of `qty` against the round trip that goes to it: all of the fill, or
what is open when the fill is larger. -/
def closeQty (rt : RoundTrip) (qty : Decimal) : Decimal :=
  if rt.net.abs.compare qty == .lt then rt.net.abs else qty

/-- The share of the fill's commission that goes to the round trip it goes against. -/
def share (rt : RoundTrip) (qty : Decimal) : Decimal :=
  ((rt.closeQty qty).div qty).getD Decimal.zero

/-- The round trip after the part of a fill of `qty` that goes against it. -/
def reduce (rt : RoundTrip) (qty price fee pnl : Decimal) : RoundTrip :=
  let closeQty := rt.closeQty qty
  { rt with exitQty := rt.exitQty.add closeQty, exitValue := rt.exitValue.add (closeQty.mul price),
            pnl := rt.pnl.add pnl, fee := rt.fee.add (fee.mul (rt.share qty)),
            net := if rt.net.isPositive then rt.net.sub closeQty else rt.net.add closeQty }

end RoundTrip

/-! ### The arithmetic of one fill -/

namespace RoundTrip

variable {rt : RoundTrip} {qty price fee pnl : Decimal} {buy : Bool}

theorem grows_iff :
    rt.grows buy = true ↔ (0 < rt.net.value ∧ buy = true) ∨ (rt.net.value < 0 ∧ buy = false) := by
  cases buy <;> simp [grows, Decimal.isPositive_iff, ← Decimal.value_neg_iff]

/-- A fill that adds to a round trip moves its running quantity away from zero by its size. -/
theorem abs_net_grow (hg : rt.grows buy = true) (hq : 0 ≤ qty.value) :
    |(rt.grow qty price fee pnl buy).net.value| = |rt.net.value| + qty.value := by
  rcases grows_iff.1 hg with ⟨hpos, rfl⟩ | ⟨hneg, rfl⟩
  · have : 0 < rt.net.value + qty.value := by linarith
    simp [grow, abs_of_pos hpos, abs_of_pos this]
  · have : rt.net.value - qty.value < 0 := by linarith
    simp only [grow, Bool.false_eq_true, if_false, Decimal.value_sub, abs_of_neg hneg,
      abs_of_neg this]
    ring

theorem peak_grow :
    (rt.grow qty price fee pnl buy).peak.value =
      max rt.peak.value |(rt.grow qty price fee pnl buy).net.value| := by
  simp only [grow]
  generalize (if buy = true then rt.net.add qty else rt.net.sub qty) = n
  split
  · next hgt =>
    rw [Decimal.gt_iff, Decimal.value_abs] at hgt
    rw [Decimal.value_abs, max_eq_right hgt.le]
  · next hgt =>
    rw [Decimal.gt_iff, Decimal.value_abs, not_lt] at hgt
    rw [max_eq_left hgt]

/-- The part of a fill against a round trip is the smaller of the fill and what is open. -/
theorem closeQty_value : (rt.closeQty qty).value = min |rt.net.value| qty.value := by
  unfold closeQty
  split
  · next hlt =>
    rw [beq_iff_eq, Decimal.compare_eq, compare_lt_iff_lt, Decimal.value_abs] at hlt
    rw [Decimal.value_abs, min_eq_left hlt.le]
  · next hlt =>
    rw [beq_iff_eq, Decimal.compare_eq, compare_lt_iff_lt, Decimal.value_abs, not_lt] at hlt
    rw [min_eq_right hlt]

/-- A fill against a round trip moves its running quantity toward zero by the part it closes. -/
theorem abs_net_reduce (h : rt.net.value ≠ 0) (hq : 0 ≤ qty.value) :
    |(rt.reduce qty price fee pnl).net.value| = |rt.net.value| - (rt.closeQty qty).value := by
  have hc : (rt.closeQty qty).value = min |rt.net.value| qty.value := closeQty_value
  have hle : (rt.closeQty qty).value ≤ |rt.net.value| := hc ▸ min_le_left _ _
  have hnn : 0 ≤ (rt.closeQty qty).value := hc ▸ le_min (abs_nonneg _) hq
  simp only [reduce]
  split
  · next hpos =>
    rw [Decimal.isPositive_iff] at hpos
    rw [abs_of_pos hpos] at hle ⊢
    rw [Decimal.value_sub, abs_of_nonneg (by linarith)]
  · next hpos =>
    rw [Decimal.isPositive_iff, not_lt] at hpos
    have hneg : rt.net.value < 0 := lt_of_le_of_ne hpos h
    rw [abs_of_neg hneg] at hle ⊢
    rw [Decimal.value_add, abs_of_nonpos (by linarith)]
    ring

/-- A fill no larger than what is open goes against the round trip whole, and so does all of
its commission. -/
theorem share_value_of_le (hq : 0 < qty.value) (hle : qty.value ≤ |rt.net.value|) :
    (rt.share qty).value = 1 := by
  have hclose : rt.closeQty qty = qty := by
    unfold closeQty
    rw [if_neg]
    rw [beq_iff_eq, Decimal.compare_eq, compare_lt_iff_lt, Decimal.value_abs, not_lt]
    exact hle
  unfold share
  rw [hclose]
  have hone := @Decimal.div_mul_cancel_value qty qty ⟨1, 0⟩ hq.ne' (by simp [Decimal.value])
    (by decide)
  rw [hone]
  simp [Decimal.value]

/-- A round trip opened by a fill of `qty` holds `qty`, bought or sold. -/
theorem abs_net_start (f : Fill) (hq : 0 ≤ qty.value) :
    |(RoundTrip.start f qty price fee pnl buy).net.value| = qty.value := by
  cases buy <;> simp [RoundTrip.start, abs_of_nonneg hq]

/-- The commission's share is the part's fraction of the fill, to sixteen places. -/
theorem abs_share_sub_le (hq : 0 < qty.value) :
    |(rt.share qty).value - (rt.closeQty qty).value / qty.value| ≤ 1 / (2 * 10 ^ 16) := by
  unfold share
  rw [Decimal.div_eq hq.ne', Option.getD_some]
  have hround := Decimal.abs_roundHalfAway_sub_le
    ((rt.closeQty qty).value / qty.value * 10 ^ Decimal.divisionPlaces)
  generalize (rt.closeQty qty).value / qty.value = x at hround ⊢
  have hp : (0 : ℚ) < 10 ^ Decimal.divisionPlaces := by positivity
  have hvalue : (⟨Decimal.roundHalfAway (x * 10 ^ Decimal.divisionPlaces),
      -(Decimal.divisionPlaces : Int)⟩ : Decimal).value =
      (Decimal.roundHalfAway (x * 10 ^ Decimal.divisionPlaces) : ℚ) /
        10 ^ Decimal.divisionPlaces := by
    rw [Decimal.value, zpow_neg, zpow_natCast, div_eq_mul_inv]
  rw [hvalue]
  have hsplit : (Decimal.roundHalfAway (x * 10 ^ Decimal.divisionPlaces) : ℚ) /
      10 ^ Decimal.divisionPlaces - x =
      ((Decimal.roundHalfAway (x * 10 ^ Decimal.divisionPlaces) : ℚ) -
        x * 10 ^ Decimal.divisionPlaces) / 10 ^ Decimal.divisionPlaces := by
    field_simp
  rw [hsplit, abs_div, abs_of_pos hp, div_le_iff₀ hp]
  calc _ ≤ 1 / 2 := hround
    _ = 1 / (2 * 10 ^ 16) * 10 ^ Decimal.divisionPlaces := by
      rw [Decimal.divisionPlaces]
      norm_num

end RoundTrip

namespace HistoryState

/-- What a fill does to the round trip of its key: nothing, leave it open as `rt`, or close it
as `rt`, with what the rest of a flipping fill opens. -/
inductive Effect where
  | skip
  | keep (rt : RoundTrip)
  | close (rt : RoundTrip) (next : Option RoundTrip)

/-- Whether nothing of a key is open. -/
def flat (s : HistoryState) (k : String) : Bool :=
  match s.find? k with
  | none => true
  | some rt => rt.net.isZero

/-- What the walk does with a fill. -/
def effect (s : HistoryState) (f : Fill) : Effect :=
  match f.qtyAmount? with
  | none => .skip
  | some qty =>
    if !qty.isPositive then .skip
    else
      -- nothing open: the fill opens a round trip, unless it reports realized profit
      let fresh : Effect := if !f.pnlAmount.isZero then .skip
        else .keep (RoundTrip.start f qty f.priceAmount f.feeAmount f.pnlAmount f.buys)
      match s.find? f.key with
      | none => fresh
      | some rt =>
        if rt.net.isZero then fresh
        else if rt.grows f.buys then
          .keep (rt.grow qty f.priceAmount f.feeAmount f.pnlAmount f.buys)
        else
          let rt' := rt.reduce qty f.priceAmount f.feeAmount f.pnlAmount
          if !rt'.net.isZero then .keep rt'
          else
            let rest := qty.sub (rt.closeQty qty)
            .close rt' (if rest.isPositive then
              some (RoundTrip.start f rest f.priceAmount
                (f.feeAmount.sub (f.feeAmount.mul (rt.share qty))) Decimal.zero f.buys)
            else none)

/-- The state after an effect of a fill. -/
def apply (s : HistoryState) (f : Fill) : Effect → HistoryState
  | .skip => s
  | .keep rt => s.put f.key rt
  | .close rt next =>
    let s' := { s.drop f.key with records := s.records ++ [rt.record f] }
    match next with
    | some n => s'.put f.key n
    | none => s'

theorem push_eq_apply (s : HistoryState) (f : Fill) : s.push f = s.apply f (s.effect f) := by
  unfold push effect openFresh Fill.qtyAmount? Fill.priceAmount Fill.feeAmount Fill.pnlAmount
    Fill.buys Fill.key
  rcases Decimal.ofString? f.qty with _ | qty
  · rfl
  dsimp only
  by_cases hpos : qty.isPositive = true
  swap
  · simp only [hpos, Bool.not_false, if_true]
    rfl
  simp only [hpos, Bool.not_true, Bool.false_eq_true, if_false]
  by_cases hp : ((Decimal.ofString? f.realizedPnl).getD Decimal.zero).isZero = true
  all_goals
    rcases s.find? (f.symbol ++ "|" ++ f.positionSide) with _ | rt
    · simp [hp, apply, Fill.key]
    by_cases hz : rt.net.isZero = true
    · simp [hz, hp, apply, Fill.key]
    by_cases hg : rt.grows (f.side == "BUY") = true
    · have hg' := hg
      simp only [RoundTrip.grows] at hg'
      simp [hz, hg, hg', apply, Fill.key, RoundTrip.grow]
    have hg' := hg
    simp only [RoundTrip.grows] at hg'
    simp only [hz, hg, hg', Bool.false_eq_true, if_false]
    simp only [RoundTrip.reduce, RoundTrip.closeQty, RoundTrip.share, apply, Fill.key]
    split_ifs <;> rfl

/-- Whether the walk passes over a fill: its quantity does not read or is not positive, or it
reports realized profit while nothing of its key is open. -/
def passes (s : HistoryState) (f : Fill) : Bool :=
  match f.qtyAmount? with
  | none => true
  | some qty => !qty.isPositive || (s.flat f.key && !f.pnlAmount.isZero)

theorem effect_eq_skip_iff (s : HistoryState) (f : Fill) :
    s.effect f = .skip ↔ s.passes f = true := by
  unfold effect passes flat
  rcases f.qtyAmount? with _ | qty
  · simp
  dsimp only
  by_cases hpos : qty.isPositive = true
  swap
  · simp [hpos]
  simp only [hpos, Bool.not_true, Bool.false_or, Bool.false_eq_true, if_false]
  rcases s.find? f.key with _ | rt
  · by_cases hp : f.pnlAmount.isZero = true <;> simp [hp]
  by_cases hz : rt.net.isZero = true
  · by_cases hp : f.pnlAmount.isZero = true <;> simp [hz, hp]
  simp only [hz, Bool.false_eq_true, if_false, Bool.false_and, iff_false]
  split_ifs <;> simp

/-- A fill that leaves its key's round trip open: it opened it from flat, added to it, or went
against it without closing it. -/
theorem effect_eq_keep {s : HistoryState} {f : Fill} {rt : RoundTrip}
    (h : s.effect f = .keep rt) :
    ∃ qty, f.qtyAmount? = some qty ∧ 0 < qty.value ∧
      ((s.flat f.key = true ∧ f.pnlAmount.value = 0 ∧
          rt = RoundTrip.start f qty f.priceAmount f.feeAmount f.pnlAmount f.buys) ∨
        (∃ o, s.find? f.key = some o ∧ o.net.value ≠ 0 ∧ o.grows f.buys = true ∧
          rt = o.grow qty f.priceAmount f.feeAmount f.pnlAmount f.buys) ∨
        (∃ o, s.find? f.key = some o ∧ o.net.value ≠ 0 ∧ o.grows f.buys = false ∧
          rt = o.reduce qty f.priceAmount f.feeAmount f.pnlAmount ∧ rt.net.value ≠ 0)) := by
  unfold effect at h
  split at h
  · cases h
  next qty hq =>
  split at h
  · cases h
  next hpos =>
  refine ⟨qty, hq, by simpa [Decimal.isPositive_iff] using hpos, ?_⟩
  dsimp only at h
  split at h
  · -- nothing open
    next hf =>
    split at h
    · cases h
    next hp =>
    cases h
    exact .inl ⟨by simp [flat, hf], by simpa [Decimal.isZero_iff] using hp, rfl⟩
  next o hf =>
  split at h
  · -- an open round trip at zero counts as nothing open
    next hz =>
    split at h
    · cases h
    next hp =>
    cases h
    exact .inl ⟨by simp [flat, hf, hz], by simpa [Decimal.isZero_iff] using hp, rfl⟩
  next hz =>
  have hne : o.net.value ≠ 0 := by simpa [Decimal.isZero_iff] using hz
  split at h
  · next hg =>
    cases h
    exact .inr (.inl ⟨o, hf, hne, hg, rfl⟩)
  next hg =>
  split at h
  · next hr =>
    cases h
    exact .inr (.inr ⟨o, hf, hne, by simpa using hg, rfl, by simpa [← Decimal.isZero_iff] using hr⟩)
  · cases h

/-- A fill that closes its key's round trip went against it with at least what was open; the
rest of the fill, when there is some, opens the next round trip with the rest of the
commission. -/
theorem effect_eq_close {s : HistoryState} {f : Fill} {rt : RoundTrip} {next : Option RoundTrip}
    (h : s.effect f = .close rt next) :
    ∃ qty o, f.qtyAmount? = some qty ∧ 0 < qty.value ∧ s.find? f.key = some o ∧
      o.net.value ≠ 0 ∧ o.grows f.buys = false ∧
      rt = o.reduce qty f.priceAmount f.feeAmount f.pnlAmount ∧ rt.net.value = 0 ∧
      next = if (qty.sub (o.closeQty qty)).isPositive then
        some (RoundTrip.start f (qty.sub (o.closeQty qty)) f.priceAmount
          (f.feeAmount.sub (f.feeAmount.mul (o.share qty))) Decimal.zero f.buys)
      else none := by
  unfold effect at h
  split at h
  · cases h
  next qty hq =>
  split at h
  · cases h
  next hpos =>
  dsimp only at h
  split at h
  · split at h <;> cases h
  next o hf =>
  split at h
  · split at h <;> cases h
  next hz =>
  split at h
  · cases h
  next hg =>
  split at h
  · cases h
  next hr =>
  cases h
  exact ⟨qty, o, hq, by simpa [Decimal.isPositive_iff] using hpos, hf,
    by simpa [Decimal.isZero_iff] using hz, by simpa using hg, rfl,
    by simpa [Decimal.isZero_iff] using hr, rfl⟩

/-! ### The state after an effect -/

/-- The key's round trip after an effect, from the one before. -/
def Effect.after (old : Option RoundTrip) : Effect → Option RoundTrip
  | .skip => old
  | .keep rt => some rt
  | .close _ next => next

/-- The records an effect emits. -/
def Effect.emitted (f : Fill) : Effect → List PositionRecord
  | .close rt _ => [rt.record f]
  | _ => []

theorem find?_filter_key_ne {l : List (String × RoundTrip)} {k k' : String} (h : k' ≠ k) :
    (l.filter (·.1 != k)).find? (·.1 == k') = l.find? (·.1 == k') := by
  simp only [List.find?_filter]
  congr 1
  funext e
  by_cases he : e.1 = k' <;> simp_all

theorem find?_put (s : HistoryState) (k k' : String) (rt : RoundTrip) :
    (s.put k rt).find? k' = if k' = k then some rt else s.find? k' := by
  unfold find? put
  by_cases hk : k' = k
  · subst hk
    simp
  · rw [if_neg hk, List.find?_cons, find?_filter_key_ne hk]
    have hne : (k == k') = false := by simpa using Ne.symm hk
    simp only [hne]

theorem find?_drop (s : HistoryState) (k k' : String) :
    (s.drop k).find? k' = if k' = k then none else s.find? k' := by
  unfold find? drop
  by_cases hk : k' = k
  · subst hk
    simp [List.find?_filter]
  · rw [if_neg hk, find?_filter_key_ne hk]

theorem find?_apply (s : HistoryState) (f : Fill) (e : Effect) (k : String) :
    (s.apply f e).find? k = if k = f.key then e.after (s.find? k) else s.find? k := by
  cases e with
  | skip => split <;> rfl
  | keep rt => exact find?_put s f.key k rt
  | close rt next =>
    cases next with
    | some n =>
      unfold apply
      dsimp only
      rw [find?_put]
      split
      · rfl
      · next hk =>
        show (s.drop f.key).find? k = s.find? k
        rw [find?_drop, if_neg hk]
    | none =>
      show (s.drop f.key).find? k = _
      rw [find?_drop]
      rfl

theorem records_apply (s : HistoryState) (f : Fill) (e : Effect) :
    (s.apply f e).records = s.records ++ e.emitted f := by
  cases e with
  | skip => simp [apply, Effect.emitted]
  | keep rt => simp [apply, put, Effect.emitted]
  | close rt next => cases next <;> rfl

end HistoryState

/-! ### The journal of a walk -/

open HistoryState

/-- A round trip closed by a fill: the round trip as it closed, the fill that closed it, what
the rest of that fill opened, and the running quantities the round trip went through. -/
structure ClosedTrip where
  trip : RoundTrip
  closing : Fill
  next : Option RoundTrip
  running : List Decimal

/-- The record the walk emits for a closed round trip. -/
def ClosedTrip.record (c : ClosedTrip) : PositionRecord := c.trip.record c.closing

/-- A walk with what it did: its state, the fills it took, the round trips it closed, and the
running quantities each key's open round trip went through. -/
structure Journal where
  state : HistoryState := {}
  taken : List Fill := []
  closed : List ClosedTrip := []
  running : String → List Decimal := fun _ => []

namespace Journal

/-- Walk one fill. -/
def step (j : Journal) (f : Fill) : Journal where
  state := j.state.push f
  taken := if j.state.passes f then j.taken else j.taken ++ [f]
  closed := match j.state.effect f with
    | .close rt next => j.closed ++ [⟨rt, f, next, j.running f.key ++ [rt.net]⟩]
    | _ => j.closed
  running := match j.state.effect f with
    | .skip => j.running
    | .keep rt => Function.update j.running f.key (j.running f.key ++ [rt.net])
    | .close _ next => Function.update j.running f.key ((next.map fun n => [n.net]).getD [])

/-- The sum of an amount over the fills a journal took for a key. -/
def takenSum (j : Journal) (amount : Fill → Decimal) (k : String) : ℚ :=
  ((j.taken.filter (·.key == k)).map fun f => (amount f).value).sum

/-- The sum of a part over a key's closed round trips and its open one. -/
def heldSum (j : Journal) (part : RoundTrip → Decimal) (k : String) : ℚ :=
  ((j.closed.filter (·.closing.key == k)).map fun c => (part c.trip).value).sum +
    ((j.state.find? k).map fun rt => (part rt).value).getD 0

end Journal

/-- The walk of a list of fills in time order, with what it took and closed. -/
def journal (fills : List Fill) : Journal := (Fill.sortByTime fills).foldl Journal.step {}

/-- What holds of an open round trip of a walk over `done`: its running quantity is not zero,
is what entered it less what left it, and is at most the peak; the peak is the largest of the
running quantities it went through; and it opened at the time of a fill walked. -/
structure OpenTrip (done : List Fill) (running : List Decimal) (rt : RoundTrip) : Prop where
  net_ne : rt.net.value ≠ 0
  net_abs : |rt.net.value| = rt.entryQty.value - rt.exitQty.value
  net_le : |rt.net.value| ≤ rt.peak.value
  peak_ge : ∀ x ∈ running, |x.value| ≤ rt.peak.value
  peak_mem : ∃ x ∈ running, |x.value| = rt.peak.value
  opened : ∃ g ∈ done, g.time = rt.openTime

/-- What holds of a round trip as it closed: its running quantity is back at zero, as much left
it as entered, its peak is the largest running quantity it went through, it opened no later
than it closed, and the round trip the rest of its closing fill opened carries that fill's
commission in proportion to the quantity, to sixteen places. -/
structure ClosedTrip.Sound (c : ClosedTrip) : Prop where
  net_zero : c.trip.net.value = 0
  entry_exit : c.trip.entryQty.value = c.trip.exitQty.value
  peak_ge : ∀ x ∈ c.running, |x.value| ≤ c.trip.peak.value
  peak_mem : ∃ x ∈ c.running, |x.value| = c.trip.peak.value
  opened : c.trip.openTime ≤ c.closing.time
  split : ∀ n qty, c.next = some n → c.closing.qtyAmount? = some qty →
    |n.fee.value - c.closing.feeAmount.value * (|n.net.value| / qty.value)| ≤
      |c.closing.feeAmount.value| / (2 * 10 ^ 16)

/-- What holds of the journal of a walk over `done`: the records are those of the closed round
trips, closed by fills walked in order; every open round trip and every closed one is sound;
a key with nothing open has no running quantities; and per key, the commissions and realized
profits of the fills taken are those the key's round trips hold. -/
structure Journal.Inv (done : List Fill) (j : Journal) : Prop where
  records : j.state.records = j.closed.map ClosedTrip.record
  opened : ∀ k rt, j.state.find? k = some rt → OpenTrip done (j.running k) rt
  flat : ∀ k, j.state.find? k = none → j.running k = []
  closed : ∀ c ∈ j.closed, c.Sound
  closings : (j.closed.map (·.closing)).Sublist done
  fees : ∀ k, j.takenSum Fill.feeAmount k = j.heldSum RoundTrip.fee k
  profits : ∀ k, j.takenSum Fill.pnlAmount k = j.heldSum RoundTrip.pnl k

namespace OpenTrip

variable {done : List Fill} {running : List Decimal} {o : RoundTrip} {qty price fee pnl : Decimal}
  {buy : Bool}

theorem mono (h : OpenTrip done running o) (f : Fill) : OpenTrip (done ++ [f]) running o := by
  obtain ⟨g, hg, ht⟩ := h.opened
  exact { h with opened := ⟨g, List.mem_append_left _ hg, ht⟩ }

/-- A round trip opened by a fill walked. -/
theorem start {f : Fill} (hf : f ∈ done) (hq : 0 < qty.value) :
    OpenTrip done [(RoundTrip.start f qty price fee pnl buy).net]
      (RoundTrip.start f qty price fee pnl buy) := by
  have habs : |(RoundTrip.start f qty price fee pnl buy).net.value| = qty.value :=
    RoundTrip.abs_net_start f hq.le
  have hpeak : (RoundTrip.start f qty price fee pnl buy).peak = qty := rfl
  refine ⟨fun h0 => ?_, ?_, ?_, ?_, ⟨_, List.mem_singleton_self _, by rw [habs, hpeak]⟩,
    ⟨f, hf, rfl⟩⟩
  · rw [h0, abs_zero] at habs
    linarith
  · rw [habs]
    simp [RoundTrip.start]
  · rw [habs, hpeak]
  · simp [habs, hpeak]

/-- A fill that adds to an open round trip keeps it sound. -/
theorem grow (h : OpenTrip done running o) (hg : o.grows buy = true) (hq : 0 < qty.value) :
    OpenTrip done (running ++ [(o.grow qty price fee pnl buy).net])
      (o.grow qty price fee pnl buy) := by
  have habs : |(o.grow qty price fee pnl buy).net.value| = |o.net.value| + qty.value :=
    RoundTrip.abs_net_grow hg hq.le
  have hpeak : (o.grow qty price fee pnl buy).peak.value =
      max o.peak.value |(o.grow qty price fee pnl buy).net.value| := RoundTrip.peak_grow
  refine ⟨fun h0 => ?_, ?_, ?_, fun x hx => ?_, ?_, h.opened⟩
  · rw [h0, abs_zero] at habs
    have := abs_nonneg o.net.value
    linarith
  · rw [habs, h.net_abs]
    simp only [RoundTrip.grow, Decimal.value_add]
    ring
  · rw [hpeak]
    exact le_max_right _ _
  · rw [hpeak]
    rcases List.mem_append.1 hx with hx | hx
    · exact (h.peak_ge x hx).trans (le_max_left _ _)
    · rw [List.mem_singleton.1 hx]
      exact le_max_right _ _
  · -- the peak is the new running quantity when that is larger, else the old peak
    rw [hpeak]
    rcases le_total o.peak.value |(o.grow qty price fee pnl buy).net.value| with hle | hle
    · exact ⟨_, List.mem_append_right _ (List.mem_singleton_self _), (max_eq_right hle).symm⟩
    · obtain ⟨x, hx, hxp⟩ := h.peak_mem
      exact ⟨x, List.mem_append_left _ hx, by rw [max_eq_left hle, hxp]⟩

/-- A fill that goes against an open round trip without closing it keeps it sound. -/
theorem reduce (h : OpenTrip done running o) (hq : 0 < qty.value)
    (hne : (o.reduce qty price fee pnl).net.value ≠ 0) :
    OpenTrip done (running ++ [(o.reduce qty price fee pnl).net]) (o.reduce qty price fee pnl) := by
  have habs : |(o.reduce qty price fee pnl).net.value| = |o.net.value| - (o.closeQty qty).value :=
    RoundTrip.abs_net_reduce h.net_ne hq.le
  have hc : (o.closeQty qty).value = min |o.net.value| qty.value := RoundTrip.closeQty_value
  have hcnn : 0 ≤ (o.closeQty qty).value := hc ▸ le_min (abs_nonneg _) hq.le
  have hle : |(o.reduce qty price fee pnl).net.value| ≤ o.peak.value := by
    have := h.net_le
    linarith
  refine ⟨hne, ?_, hle, fun x hx => ?_, ?_, h.opened⟩
  · rw [habs, h.net_abs]
    simp only [RoundTrip.reduce, Decimal.value_add]
    ring
  · rcases List.mem_append.1 hx with hx | hx
    · exact h.peak_ge x hx
    · rw [List.mem_singleton.1 hx]
      exact hle
  · obtain ⟨x, hx, hxp⟩ := h.peak_mem
    exact ⟨x, List.mem_append_left _ hx, hxp⟩

/-- A fill that brings an open round trip back to zero closes it sound. -/
theorem close {f : Fill} (h : OpenTrip done running o) (htime : ∀ g ∈ done, g.time ≤ f.time)
    (hqf : f.qtyAmount? = some qty) (hq : 0 < qty.value)
    (hz : (o.reduce qty f.priceAmount f.feeAmount f.pnlAmount).net.value = 0) :
    ClosedTrip.Sound ⟨o.reduce qty f.priceAmount f.feeAmount f.pnlAmount, f,
      if (qty.sub (o.closeQty qty)).isPositive then
        some (RoundTrip.start f (qty.sub (o.closeQty qty)) f.priceAmount
          (f.feeAmount.sub (f.feeAmount.mul (o.share qty))) Decimal.zero f.buys)
      else none,
      running ++ [(o.reduce qty f.priceAmount f.feeAmount f.pnlAmount).net]⟩ := by
  have habs : |(o.reduce qty f.priceAmount f.feeAmount f.pnlAmount).net.value| =
      |o.net.value| - (o.closeQty qty).value := RoundTrip.abs_net_reduce h.net_ne hq.le
  -- what the fill closed is all that was open
  have hc : (o.closeQty qty).value = |o.net.value| := by
    rw [hz, abs_zero] at habs
    linarith
  refine ⟨hz, ?_, fun x hx => ?_, ?_, ?_, fun n qty' hn hqf' => ?_⟩
  · simp only [RoundTrip.reduce, Decimal.value_add]
    rw [hc, h.net_abs]
    ring
  · rcases List.mem_append.1 hx with hx | hx
    · exact h.peak_ge x hx
    · rw [List.mem_singleton.1 hx, hz, abs_zero]
      exact (abs_nonneg _).trans h.net_le
  · obtain ⟨x, hx, hxp⟩ := h.peak_mem
    exact ⟨x, List.mem_append_left _ hx, hxp⟩
  · obtain ⟨g, hg, ht⟩ := h.opened
    exact ht ▸ htime g hg
  · -- the next round trip holds the rest of the fill and the rest of its commission
    rw [hqf] at hqf'
    cases hqf'
    dsimp only at hn
    split at hn
    · next hrest =>
      cases hn
      have hrest' : 0 ≤ (qty.sub (o.closeQty qty)).value :=
        ((Decimal.isPositive_iff _).1 hrest).le
      have hshare : |(o.share qty).value - (o.closeQty qty).value / qty.value| ≤
          1 / (2 * 10 ^ 16) := RoundTrip.abs_share_sub_le hq
      rw [RoundTrip.abs_net_start f hrest']
      simp only [RoundTrip.start, Decimal.value_sub, Decimal.value_mul]
      have hsplit : f.feeAmount.value - f.feeAmount.value * (o.share qty).value -
          f.feeAmount.value * ((qty.value - (o.closeQty qty).value) / qty.value) =
          f.feeAmount.value * ((o.closeQty qty).value / qty.value - (o.share qty).value) := by
        field_simp
        ring
      rw [hsplit, abs_mul, abs_sub_comm, div_eq_mul_one_div |f.feeAmount.value|]
      exact mul_le_mul_of_nonneg_left hshare (abs_nonneg _)
    · cases hn

end OpenTrip

/-! ### Commissions and profits move whole -/

namespace HistoryState

/-- What the round trips an effect leaves for its key hold by `part`, closed and open. -/
def Effect.heldBy (part : RoundTrip → Decimal) : Effect → ℚ
  | .skip => 0
  | .keep rt => (part rt).value
  | .close rt next => (part rt).value + ((next.map fun n => (part n).value).getD 0)

variable {s : HistoryState} {f : Fill}

/-- With every open round trip away from zero, a flat key has nothing open. -/
theorem find?_eq_none_of_flat (hopen : ∀ o, s.find? f.key = some o → o.net.value ≠ 0)
    (hflat : s.flat f.key = true) : s.find? f.key = none := by
  unfold flat at hflat
  rcases ho : s.find? f.key with _ | o
  · rfl
  · rw [ho, Decimal.isZero_iff] at hflat
    exact absurd hflat (hopen o ho)

/-- The commission of a fill with an effect goes whole to its key's round trips. -/
theorem fee_moves (hopen : ∀ o, s.find? f.key = some o → o.net.value ≠ 0)
    (he : s.effect f ≠ .skip) :
    (s.effect f).heldBy RoundTrip.fee =
      ((s.find? f.key).map fun o => o.fee.value).getD 0 + f.feeAmount.value := by
  rcases h : s.effect f with _ | rt | ⟨rt, next⟩
  · exact absurd h he
  · obtain ⟨qty, -, hq, hcase⟩ := effect_eq_keep h
    rcases hcase with ⟨hflat, -, rfl⟩ | ⟨o, ho, -, -, rfl⟩ | ⟨o, ho, hne, -, rfl, hrne⟩
    · rw [find?_eq_none_of_flat hopen hflat]
      simp [Effect.heldBy, RoundTrip.start]
    · simp [Effect.heldBy, ho, RoundTrip.grow]
    · -- the round trip stays open, so the fill was no larger than what was open
      have habs : |(o.reduce qty f.priceAmount f.feeAmount f.pnlAmount).net.value| =
          |o.net.value| - (o.closeQty qty).value := RoundTrip.abs_net_reduce hne hq.le
      have hc : (o.closeQty qty).value = min |o.net.value| qty.value := RoundTrip.closeQty_value
      have hle : qty.value ≤ |o.net.value| := by
        by_contra hgt
        rw [not_le] at hgt
        rw [hc, min_eq_left hgt.le, sub_self, abs_eq_zero] at habs
        exact hrne habs
      simp [Effect.heldBy, ho, RoundTrip.reduce, RoundTrip.share_value_of_le hq hle]
  · obtain ⟨qty, o, -, hq, ho, hne, -, rfl, -, rfl⟩ := effect_eq_close h
    split
    · next hrest =>
      simp only [Effect.heldBy, ho, RoundTrip.reduce, RoundTrip.start, Option.map_some,
        Option.getD_some, Decimal.value_add, Decimal.value_mul, Decimal.value_sub]
      ring
    · -- no rest: the fill was no larger than what was open
      next hrest =>
      have hc : (o.closeQty qty).value = min |o.net.value| qty.value := RoundTrip.closeQty_value
      have hle : qty.value ≤ |o.net.value| := by
        rw [Decimal.isPositive_iff, not_lt, Decimal.value_sub, sub_nonpos, hc] at hrest
        exact le_trans hrest (min_le_left _ _)
      simp [Effect.heldBy, ho, RoundTrip.reduce, RoundTrip.share_value_of_le hq hle]

/-- The realized profit of a fill with an effect goes whole to its key's round trips. -/
theorem pnl_moves (hopen : ∀ o, s.find? f.key = some o → o.net.value ≠ 0)
    (he : s.effect f ≠ .skip) :
    (s.effect f).heldBy RoundTrip.pnl =
      ((s.find? f.key).map fun o => o.pnl.value).getD 0 + f.pnlAmount.value := by
  rcases h : s.effect f with _ | rt | ⟨rt, next⟩
  · exact absurd h he
  · obtain ⟨qty, -, -, hcase⟩ := effect_eq_keep h
    rcases hcase with ⟨hflat, -, rfl⟩ | ⟨o, ho, -, -, rfl⟩ | ⟨o, ho, -, -, rfl, -⟩
    · rw [find?_eq_none_of_flat hopen hflat]
      simp [Effect.heldBy, RoundTrip.start]
    · simp [Effect.heldBy, ho, RoundTrip.grow]
    · simp [Effect.heldBy, ho, RoundTrip.reduce]
  · obtain ⟨qty, o, -, -, ho, -, -, rfl, -, rfl⟩ := effect_eq_close h
    split <;> simp [Effect.heldBy, ho, RoundTrip.reduce, RoundTrip.start]

end HistoryState

/-! ### One step of the journal -/

namespace Journal

variable {j : Journal} {f : Fill}

theorem step_of_skip (he : j.state.effect f = .skip) : j.step f = j := by
  have hp : j.state.passes f = true := (effect_eq_skip_iff _ _).1 he
  have hs : j.state.push f = j.state := by
    rw [push_eq_apply, he]
    rfl
  simp only [step, hs, hp, he, if_true]

theorem step_of_keep {rt : RoundTrip} (he : j.state.effect f = .keep rt) :
    j.step f =
      { state := j.state.apply f (.keep rt)
        taken := j.taken ++ [f]
        closed := j.closed
        running := Function.update j.running f.key (j.running f.key ++ [rt.net]) } := by
  have hp : j.state.passes f = false := by
    rw [← Bool.not_eq_true, ← effect_eq_skip_iff, he]
    simp
  simp only [step, push_eq_apply, he, hp, Bool.false_eq_true, if_false]

theorem step_of_close {rt : RoundTrip} {next : Option RoundTrip}
    (he : j.state.effect f = .close rt next) :
    j.step f =
      { state := j.state.apply f (.close rt next)
        taken := j.taken ++ [f]
        closed := j.closed ++ [⟨rt, f, next, j.running f.key ++ [rt.net]⟩]
        running := Function.update j.running f.key ((next.map fun n => [n.net]).getD []) } := by
  have hp : j.state.passes f = false := by
    rw [← Bool.not_eq_true, ← effect_eq_skip_iff, he]
    simp
  simp only [step, push_eq_apply, he, hp, Bool.false_eq_true, if_false]

/-- A fill with an effect adds its amount to its key's taken sum. -/
theorem takenSum_append (taken : List Fill) (amount : Fill → Decimal) (k : String) :
    (((taken ++ [f]).filter (·.key == k)).map fun g => (amount g).value).sum =
      ((taken.filter (·.key == k)).map fun g => (amount g).value).sum +
        if f.key = k then (amount f).value else 0 := by
  by_cases hk : f.key = k <;> simp [List.filter_append, hk]

/-- One step keeps a key's taken sum equal to what its round trips hold, when the fill's amount
goes whole to them. -/
theorem sums_step {amount : Fill → Decimal} {part : RoundTrip → Decimal} (k : String)
    (h : j.takenSum amount k = j.heldSum part k)
    (hmove : j.state.effect f ≠ .skip → (j.state.effect f).heldBy part =
      ((j.state.find? f.key).map fun o => (part o).value).getD 0 + (amount f).value) :
    (j.step f).takenSum amount k = (j.step f).heldSum part k := by
  rcases he : j.state.effect f with _ | rt | ⟨rt, next⟩
  · rw [step_of_skip he]
    exact h
  · have hm := hmove (by rw [he]; simp)
    rw [he] at hm
    rw [step_of_keep he]
    unfold takenSum heldSum at h ⊢
    simp only [takenSum_append, find?_apply]
    by_cases hk : f.key = k
    · subst hk
      simp only [if_true, Effect.after, Option.map_some, Option.getD_some, h]
      simp only [Effect.heldBy] at hm
      rw [hm]
      ring
    · simp only [hk, if_false, Ne.symm hk, add_zero]
      exact h
  · have hm := hmove (by rw [he]; simp)
    rw [he] at hm
    rw [step_of_close he]
    unfold takenSum heldSum at h ⊢
    simp only [find?_apply, List.filter_append, List.filter_cons, List.filter_nil,
      List.map_append, List.sum_append]
    by_cases hk : f.key = k
    · subst hk
      simp only [if_true, beq_self_eq_true, Effect.after, List.map_cons, List.map_nil,
        List.sum_cons, List.sum_nil, add_zero, h]
      simp only [Effect.heldBy] at hm
      rw [add_assoc, add_assoc, hm]
    · have hk' : (f.key == k) = false := by simpa using hk
      simp only [hk', if_false, Ne.symm hk, Bool.false_eq_true, List.map_nil, List.sum_nil,
        add_zero]
      exact h

end Journal

/-! ### The invariant along the walk -/

namespace Journal

variable {done : List Fill} {j : Journal} {f : Fill}

theorem Inv.net_ne (h : j.Inv done) {k : String} {o : RoundTrip} (ho : j.state.find? k = some o) :
    o.net.value ≠ 0 :=
  (h.opened k o ho).net_ne

theorem Inv.fees_step (h : j.Inv done) (k : String) :
    (j.step f).takenSum Fill.feeAmount k = (j.step f).heldSum RoundTrip.fee k :=
  sums_step k (h.fees k) (fee_moves fun _ ho => h.net_ne ho)

theorem Inv.profits_step (h : j.Inv done) (k : String) :
    (j.step f).takenSum Fill.pnlAmount k = (j.step f).heldSum RoundTrip.pnl k :=
  sums_step k (h.profits k) (pnl_moves fun _ ho => h.net_ne ho)

theorem Inv.mono (h : j.Inv done) (f : Fill) : j.Inv (done ++ [f]) where
  records := h.records
  opened k rt hk := (h.opened k rt hk).mono f
  flat := h.flat
  closed := h.closed
  closings := List.sublist_append_of_sublist_left h.closings
  fees := h.fees
  profits := h.profits

/-- A fill that leaves its key's round trip open keeps the invariant. -/
theorem Inv.keep {rt : RoundTrip} (h : j.Inv done) (he : j.state.effect f = .keep rt) :
    (j.step f).Inv (done ++ [f]) := by
  have hfees : ∀ k, (j.step f).takenSum Fill.feeAmount k = (j.step f).heldSum RoundTrip.fee k :=
    h.fees_step
  have hprofits : ∀ k, (j.step f).takenSum Fill.pnlAmount k =
      (j.step f).heldSum RoundTrip.pnl k := h.profits_step
  -- the key's round trip after the fill: opened from flat, grown, or reduced
  have hrt : OpenTrip (done ++ [f]) (j.running f.key ++ [rt.net]) rt := by
    obtain ⟨qty, -, hq, hcase⟩ := effect_eq_keep he
    rcases hcase with ⟨hflat, -, rfl⟩ | ⟨o, ho, -, hg, rfl⟩ | ⟨o, ho, -, -, rfl, hne⟩
    · rw [h.flat _ (find?_eq_none_of_flat (fun _ ho => h.net_ne ho) hflat), List.nil_append]
      exact OpenTrip.start (List.mem_append_right _ (List.mem_singleton_self f)) hq
    · exact ((h.opened _ o ho).grow hg hq).mono f
    · exact ((h.opened _ o ho).reduce hq hne).mono f
  rw [step_of_keep he] at hfees hprofits ⊢
  refine ⟨?_, fun k o ho => ?_, fun k hk => ?_, h.closed,
    List.sublist_append_of_sublist_left h.closings, hfees, hprofits⟩
  · rw [records_apply, h.records]
    simp [Effect.emitted]
  · rw [find?_apply] at ho
    by_cases hk : k = f.key
    · subst hk
      rw [if_pos rfl, Effect.after, Option.some.injEq] at ho
      subst ho
      simpa using hrt
    · rw [if_neg hk] at ho
      dsimp only
      rw [Function.update_of_ne hk]
      exact (h.opened k o ho).mono f
  · rw [find?_apply] at hk
    by_cases hk' : k = f.key
    · rw [if_pos hk', Effect.after] at hk
      cases hk
    · rw [if_neg hk'] at hk
      dsimp only
      rw [Function.update_of_ne hk']
      exact h.flat k hk

/-- A fill that closes its key's round trip keeps the invariant, when no fill walked is later. -/
theorem Inv.close {rt : RoundTrip} {next : Option RoundTrip} (h : j.Inv done)
    (htime : ∀ g ∈ done, g.time ≤ f.time) (he : j.state.effect f = .close rt next) :
    (j.step f).Inv (done ++ [f]) := by
  have hfees : ∀ k, (j.step f).takenSum Fill.feeAmount k = (j.step f).heldSum RoundTrip.fee k :=
    h.fees_step
  have hprofits : ∀ k, (j.step f).takenSum Fill.pnlAmount k =
      (j.step f).heldSum RoundTrip.pnl k := h.profits_step
  obtain ⟨qty, o, hqf, hq, ho, -, -, hrt, hz, hnext⟩ := effect_eq_close he
  have hsound : ClosedTrip.Sound ⟨rt, f, next, j.running f.key ++ [rt.net]⟩ := by
    subst hrt hnext
    exact (h.opened _ o ho).close htime hqf hq hz
  -- what the rest of the fill opens is a fresh round trip
  have hopen : ∀ n, next = some n → OpenTrip (done ++ [f]) [n.net] n := by
    intro n hn
    rw [hnext] at hn
    split at hn
    · next hrest =>
      cases hn
      exact OpenTrip.start (List.mem_append_right _ (List.mem_singleton_self f))
        ((Decimal.isPositive_iff _).1 hrest)
    · cases hn
  rw [step_of_close he] at hfees hprofits ⊢
  refine ⟨?_, fun k n hn => ?_, fun k hk => ?_, fun c hc => ?_, ?_, hfees, hprofits⟩
  · rw [records_apply, h.records]
    simp [Effect.emitted, ClosedTrip.record]
  · rw [find?_apply] at hn
    by_cases hk : k = f.key
    · subst hk
      rw [if_pos rfl, Effect.after] at hn
      subst hn
      simpa using hopen n rfl
    · rw [if_neg hk] at hn
      dsimp only
      rw [Function.update_of_ne hk]
      exact (h.opened k n hn).mono f
  · rw [find?_apply] at hk
    by_cases hk' : k = f.key
    · subst hk'
      rw [if_pos rfl, Effect.after] at hk
      subst hk
      simp
    · rw [if_neg hk'] at hk
      dsimp only
      rw [Function.update_of_ne hk']
      exact h.flat k hk
  · rcases List.mem_append.1 hc with hc | hc
    · exact h.closed c hc
    · rw [List.mem_singleton.1 hc]
      exact hsound
  · simpa using h.closings.append (List.Sublist.refl [f])

/-- Every step of the walk keeps the invariant, when no fill walked is later. -/
theorem Inv.step (h : j.Inv done) (htime : ∀ g ∈ done, g.time ≤ f.time) :
    (j.step f).Inv (done ++ [f]) := by
  rcases he : j.state.effect f with _ | rt | ⟨rt, next⟩
  · rw [step_of_skip he]
    exact h.mono f
  · exact h.keep he
  · exact h.close htime he

/-- A walk of fills in time order keeps the invariant. -/
theorem Inv.run {fills : List Fill} (h : j.Inv done)
    (hdone : ∀ g ∈ done, ∀ f ∈ fills, g.time ≤ f.time)
    (hsorted : fills.Pairwise fun a b => a.time ≤ b.time) :
    (fills.foldl Journal.step j).Inv (done ++ fills) := by
  induction fills generalizing j done with
  | nil => simpa using h
  | cons f fills ih =>
    rw [List.pairwise_cons] at hsorted
    have hnext : (j.step f).Inv (done ++ [f]) :=
      h.step fun g hg => hdone g hg f List.mem_cons_self
    -- the fill just walked is no later than the rest
    have hdone' : ∀ g ∈ done ++ [f], ∀ f' ∈ fills, g.time ≤ f'.time := by
      intro g hg f' hf'
      rcases List.mem_append.1 hg with hg | hg
      · exact hdone g hg f' (List.mem_cons_of_mem f hf')
      · rw [List.mem_singleton.1 hg]
        exact hsorted.1 f' hf'
    simpa using ih hnext hdone' hsorted.2

theorem inv_empty : ({} : Journal).Inv [] where
  records := rfl
  opened k rt hk := by cases hk
  flat _ _ := rfl
  closed _ hc := by cases hc
  closings := List.Sublist.slnil
  fees _ := by simp [takenSum, heldSum, HistoryState.find?]
  profits _ := by simp [takenSum, heldSum, HistoryState.find?]

end Journal

/-- The journal of a walk keeps the invariant over the fills in time order. -/
theorem journal_inv (fills : List Fill) : (journal fills).Inv (Fill.sortByTime fills) := by
  have h := Journal.inv_empty.run (fun _ hg => absurd hg List.not_mem_nil)
    (Fill.sortByTime_time_le fills)
  rwa [List.nil_append] at h

/-- The journal's state is the walk's. -/
theorem foldl_step_state (fills : List Fill) (j : Journal) :
    (fills.foldl Journal.step j).state = fills.foldl HistoryState.push j.state := by
  induction fills generalizing j with
  | nil => rfl
  | cons f fills ih => exact ih (j.step f)

/-- The records of a walk are those of the journal's closed round trips. -/
theorem buildPositionHistory_eq_closed (fills : List Fill) :
    buildPositionHistory fills = (journal fills).closed.map ClosedTrip.record := by
  rw [← (journal_inv fills).records, journal, foldl_step_state]
  rfl

/-! ### The records partition the fills -/

@[simp] theorem Instant.toMs_ofMs (t : Int) : (Instant.ofMs t).toMs = t := by
  unfold Instant.ofMs
  split
  · next h => exact h.symm
  · rfl

/-- With distinct ids, the records do not depend on the order the fills come in. -/
theorem buildPositionHistory_perm {fills fills' : List Fill} (hperm : fills'.Perm fills)
    (hids : (fills.map (·.id)).Nodup) :
    buildPositionHistory fills' = buildPositionHistory fills := by
  unfold buildPositionHistory
  rw [Fill.sortByTime_eq_of_perm hperm hids]

/-- The closing fills of the records, in the order the walk took them. -/
theorem closings_sublist (fills : List Fill) :
    ((journal fills).closed.map (·.closing)).Sublist (Fill.sortByTime fills) :=
  (journal_inv fills).closings

theorem buildPositionHistory_closeTime_le (fills : List Fill) :
    (buildPositionHistory fills).Pairwise fun r r' => r.closeTime.toMs ≤ r'.closeTime.toMs := by
  have hsorted := (Fill.sortByTime_time_le fills).sublist (closings_sublist fills)
  rw [List.pairwise_map] at hsorted
  rw [buildPositionHistory_eq_closed, List.pairwise_map]
  exact hsorted.imp fun h => by simpa [ClosedTrip.record, RoundTrip.record] using h

/-- With distinct ids, no two records name the same closing fill. -/
theorem buildPositionHistory_closeId_nodup (fills : List Fill) (hids : (fills.map (·.id)).Nodup) :
    ((buildPositionHistory fills).map (·.closeId)).Nodup := by
  have hsorted : ((Fill.sortByTime fills).map (·.id)).Nodup :=
    ((Fill.sortByTime_perm fills).map _).nodup_iff.2 hids
  have hclosings : (((journal fills).closed.map (·.closing)).map (·.id)).Nodup :=
    hsorted.sublist ((closings_sublist fills).map _)
  have hrepr := hclosings.map fun _ _ => Int.repr_injective
  rw [buildPositionHistory_eq_closed]
  simpa [Function.comp_def, ClosedTrip.record, RoundTrip.record] using hrepr

/-- Every round trip closed is closed by one of the fills, and is sound. -/
theorem closed_sound (fills : List Fill) :
    ∀ c ∈ (journal fills).closed, c.closing ∈ fills ∧ c.Sound := by
  intro c hc
  refine ⟨?_, (journal_inv fills).closed c hc⟩
  rw [← Fill.mem_sortByTime]
  exact (closings_sublist fills).subset (List.mem_map_of_mem hc)

theorem buildPositionHistory_openTime_le (fills : List Fill) :
    ∀ r ∈ buildPositionHistory fills, r.openTime.toMs ≤ r.closeTime.toMs := by
  rw [buildPositionHistory_eq_closed]
  intro r hr
  obtain ⟨c, hc, rfl⟩ := List.mem_map.1 hr
  simpa [ClosedTrip.record, RoundTrip.record] using ((closed_sound fills c hc).2).opened

/-- The walk partitions the fills. With distinct ids, the records do not depend on the fills'
order; they are those of the journal's closed round trips, in close order with distinct close
ids, each opening no later than it closes. Every closed round trip was closed by a fill and is
sound: flat, as much out as in, its size its largest running quantity, the next one carrying its
share of a flipping fill's commission. Per key, the commissions and realized profits of the
fills taken are those of the key's closed round trips and its open one. -/
theorem buildPositionHistory_partitions_fills (fills : List Fill)
    (hids : (fills.map (·.id)).Nodup) :
    (∀ fills', fills'.Perm fills → buildPositionHistory fills' = buildPositionHistory fills) ∧
    buildPositionHistory fills = (journal fills).closed.map ClosedTrip.record ∧
    (buildPositionHistory fills).Pairwise (fun r r' => r.closeTime.toMs ≤ r'.closeTime.toMs) ∧
    ((buildPositionHistory fills).map (·.closeId)).Nodup ∧
    (∀ r ∈ buildPositionHistory fills, r.openTime.toMs ≤ r.closeTime.toMs) ∧
    (∀ c ∈ (journal fills).closed, c.closing ∈ fills ∧ c.Sound) ∧
    (∀ k, (journal fills).takenSum Fill.feeAmount k = (journal fills).heldSum RoundTrip.fee k ∧
      (journal fills).takenSum Fill.pnlAmount k = (journal fills).heldSum RoundTrip.pnl k) :=
  ⟨fun _ hperm => buildPositionHistory_perm hperm hids, buildPositionHistory_eq_closed fills,
    buildPositionHistory_closeTime_le fills, buildPositionHistory_closeId_nodup fills hids,
    buildPositionHistory_openTime_le fills, closed_sound fills,
    fun k => ⟨(journal_inv fills).fees k, (journal_inv fills).profits k⟩⟩

/-- A long of two flipped by a sell of three: the sell closes the long and opens a short of one. -/
def flipFills : List Fill :=
  [{ id := 7, symbol := "BTCUSDT", side := "BUY", positionSide := "BOTH", price := "100",
     qty := "2", commission := "0.2", time := 1790856000000 },
   { id := 8, symbol := "BTCUSDT", side := "SELL", positionSide := "BOTH", price := "110",
     qty := "3", commission := "0.3", realizedPnl := "20", time := 1790856060000 }]

theorem flipFills_in_either_order :
    (flipFills.map (·.id)).Nodup ∧
      buildPositionHistory flipFills.reverse = buildPositionHistory flipFills :=
  ⟨by decide, (buildPositionHistory_partitions_fills flipFills (by decide)).1 _ (List.reverse_perm _)⟩

end TradeLedger
