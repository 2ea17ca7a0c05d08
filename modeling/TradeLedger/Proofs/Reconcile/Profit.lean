import TradeLedger.Proofs.Number.Exact
import TradeLedger.Proofs.Number.Words
import TradeLedger.Reconcile.Pnl
import TradeLedger.Text.Case
/-!
# The profit derived from a matched record

A matched record gives a trade's net realized profit in exact decimals on the floats' shortest
digits: the venue's realized figure if present, else the price difference times the size
(negated for a short), less the fee, plus the funding. Only the exact texts `LONG` and `SHORT`
sign the difference, while the matcher upper-cases the field.

## Theorems

* `derivePnl_signs_by_exact_side`: the exact profit and materiality, signed by the exact side.
* `lower_case_record_side_ignored`: a record marked `long` is long when ranked and no side when
  its profit is derived.
-/

namespace TradeLedger

namespace Decimal

/-- The number a float's shortest digits denote; zero for a float with no decimal. -/
def valueOf (x : Float) : ℚ := ((ofFloat x).toOption.getD zero).value

theorem valueOf_eq {x : Float} {d : Decimal} (h : ofFloat x = .ok d) : valueOf x = d.value := by
  simp [valueOf, h, Except.toOption]

/-- A finite float has a decimal, and it denotes the float's value. -/
theorem ofFloat_of_isFinite {x : Float} (h : x.isFinite = true) :
    ∃ d, ofFloat x = .ok d ∧ d.value = valueOf x := by
  rw [← ofFloat_isOk] at h
  rcases hx : ofFloat x with _ | d
  · rw [hx] at h
    cases h
  · exact ⟨d, rfl, (valueOf_eq hx).symm⟩

end Decimal

namespace TradeSide

/-- The side a record gives its profit: its own when spelled as a side, else the trade's. -/
theorem recordSide_eq_short_iff (side : TradeSide) (t : String) :
    ((match ofText t with
      | .other _ => side
      | s => s) == .short) = true ↔ t = "SHORT" ∨ (t ≠ "LONG" ∧ t ≠ "SHORT" ∧ side = .short) := by
  by_cases hlong : t = "LONG"
  · subst hlong
    rw [show ofText "LONG" = .long from rfl]
    simp
  by_cases hshort : t = "SHORT"
  · subst hshort
    rw [show ofText "SHORT" = .short from rfl]
    simp
  -- any other spelling is no side, and the trade's side decides
  have hother : ofText t = .other t := by
    unfold ofText
    split <;> simp_all
  rw [hother]
  simp [hlong, hshort]

end TradeSide

open Decimal

variable (side : TradeSide) (r : Record) (funding : Float)

/-- Whether the price difference of a record is negated: the record is spelled `SHORT`, or it
is spelled as no side and the trade is short. -/
def Record.negatesDifference (side : TradeSide) (r : Record) : Prop :=
  r.side = "SHORT" ∨ (r.side ≠ "LONG" ∧ r.side ≠ "SHORT" ∧ side = .short)

instance : Decidable (r.negatesDifference side) :=
  inferInstanceAs (Decidable (r.side = "SHORT" ∨ (r.side ≠ "LONG" ∧ r.side ≠ "SHORT" ∧ side = .short)))

/-- The gross figure of a record for a trade on `side`, as a number. -/
def Record.grossValue (side : TradeSide) (r : Record) : ℚ :=
  if r.hasRealized then valueOf r.realizedPnl
  else (if r.negatesDifference side then -1 else 1) * (valueOf r.closePrice - valueOf r.openPrice) *
    valueOf r.size

/-- The figures a derivation reads, all finite. -/
def Record.FiniteFigures (r : Record) (funding : Float) : Prop :=
  r.realizedPnl.isFinite ∧ r.closePrice.isFinite ∧ r.openPrice.isFinite ∧ r.size.isFinite ∧
    r.fee.isFinite ∧ funding.isFinite

/-- The derived profit of finite figures exists and is the gross figure less the fee plus the
funding, exactly. -/
theorem derivePnl_value (h : r.FiniteFigures funding) :
    ∃ D, derivePnl side r funding = .ok D ∧
      D.value = r.grossValue side - valueOf r.fee + valueOf funding := by
  obtain ⟨hrp, hc, ho, hs, hf, hfund⟩ := h
  obtain ⟨rp, hrp, hrpv⟩ := ofFloat_of_isFinite hrp
  obtain ⟨c, hc, hcv⟩ := ofFloat_of_isFinite hc
  obtain ⟨o, ho, hov⟩ := ofFloat_of_isFinite ho
  obtain ⟨s, hs, hsv⟩ := ofFloat_of_isFinite hs
  obtain ⟨fee, hfee, hfeev⟩ := ofFloat_of_isFinite hf
  obtain ⟨fund, hfund, hfundv⟩ := ofFloat_of_isFinite hfund
  unfold derivePnl Record.grossValue
  simp only [hrp, hc, ho, hs, hfee, hfund, bind, Except.bind, pure, Except.pure]
  cases hreal : r.hasRealized
  · -- from prices: the difference is negated exactly when the record reads as short
    simp only [Bool.false_eq_true, if_false]
    refine ⟨_, rfl, ?_⟩
    -- the derivation's test on the record's side and the stated condition decide alike
    split_ifs with hshort hneg hneg
    · simp only [value_add, value_sub, value_mul, value_neg, hcv, hov, hsv, hfeev, hfundv]
      ring
    · exact absurd ((TradeSide.recordSide_eq_short_iff side r.side).mp hshort) hneg
    · exact absurd ((TradeSide.recordSide_eq_short_iff side r.side).mpr hneg) hshort
    · simp only [value_add, value_sub, value_mul, hcv, hov, hsv, hfeev, hfundv]
      ring
  · simp only [if_true]
    exact ⟨_, rfl, by rw [value_add, value_sub, hrpv, hfeev, hfundv]⟩

/-- A derived figure is material exactly when it is further from the stored one than the
threshold, as numbers. -/
theorem material_eq (stored threshold : Float) (D : Decimal) (hs : stored.isFinite = true)
    (ht : threshold.isFinite = true) :
    material stored D threshold = .ok (decide (valueOf threshold < |D.value - valueOf stored|)) := by
  obtain ⟨s, hs, hsv⟩ := ofFloat_of_isFinite hs
  obtain ⟨th, ht, htv⟩ := ofFloat_of_isFinite ht
  simp only [material, hs, ht, bind, Except.bind, pure, Except.pure]
  congr 1
  rw [Bool.eq_iff_iff, gt_iff, value_abs, value_sub, hsv, htv, decide_eq_true_iff]

/-- The derived profit of a record with finite figures is the gross figure less the fee plus the
funding, where the price difference is negated when the record is spelled `SHORT`, or is spelled
as no side and the trade is short; and it is material exactly when its distance from the stored
figure exceeds the threshold. -/
theorem derivePnl_signs_by_exact_side (h : r.FiniteFigures funding) (stored threshold : Float)
    (hs : stored.isFinite = true) (ht : threshold.isFinite = true) :
    ∃ D, derivePnl side r funding = .ok D ∧
      D.value = r.grossValue side - valueOf r.fee + valueOf funding ∧
      material stored D threshold = .ok (decide (valueOf threshold < |D.value - valueOf stored|)) := by
  obtain ⟨D, hD, hv⟩ := derivePnl_value side r funding h
  exact ⟨D, hD, hv, material_eq stored threshold D hs ht⟩

/-- A record spelled `long` for a short trade, with prices and no realized figure. -/
def lowerLongRecord : Record :=
  { side := "long", openPrice := 100, closePrice := 130.1, size := 0.3, fee := 0.25 }

theorem lowerLongRecord_finite : lowerLongRecord.FiniteFigures (-1.1) := by
  refine ⟨?_, ?_, ?_, ?_, ?_, ?_⟩ <;> decide +kernel

/-- The figures of a short trade matched to a record spelled `long`: the derivation and the
materiality test against a stored 8.6 with a threshold of one cent. -/
theorem lowerLong_profit_material :
    lowerLongRecord.FiniteFigures (-1.1) ∧
      ∃ D, derivePnl .short lowerLongRecord (-1.1) = .ok D ∧
        D.value = lowerLongRecord.grossValue .short - valueOf lowerLongRecord.fee + valueOf (-1.1) ∧
        material 8.6 D 0.01 = .ok (decide (valueOf 0.01 < |D.value - valueOf 8.6|)) :=
  ⟨lowerLongRecord_finite, derivePnl_signs_by_exact_side .short lowerLongRecord (-1.1)
    lowerLongRecord_finite 8.6 0.01 (by decide +kernel) (by decide +kernel)⟩

/-- The matcher reads the record spelled `long` as long, but the derivation takes the short
trade's side and negates the difference: the profit is -10.38, where reading the record as
long gives 7.68. -/
theorem lower_case_record_side_ignored :
    String.toUpperSimple "long" = "LONG" ∧ sidesAgree .short "long" = false ∧
      derivePnl .short lowerLongRecord (-1.1) = .ok ⟨-1038, -2⟩ ∧
      (valueOf 130.1 - valueOf 100) * valueOf 0.3 - valueOf 0.25 + valueOf (-1.1) = 768 / 100 := by
  refine ⟨by decide +kernel, by decide +kernel, by decide +kernel, ?_⟩
  rw [valueOf_eq (x := 130.1) (d := ⟨1301, -1⟩) (by decide +kernel),
    valueOf_eq (x := 100) (d := ⟨1, 2⟩) (by decide +kernel),
    valueOf_eq (x := 0.3) (d := ⟨3, -1⟩) (by decide +kernel),
    valueOf_eq (x := 0.25) (d := ⟨25, -2⟩) (by decide +kernel),
    valueOf_eq (x := -1.1) (d := ⟨-11, -1⟩) (by decide +kernel)]
  norm_num [value]

end TradeLedger
