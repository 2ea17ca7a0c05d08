import TradeLedger.Proofs.Number.Exact
import TradeLedger.Proofs.Position.Stops
/-!
# The position of two legs and of their merge

A position sums its trades' sizes and size-weighted prices as decimals and rounds the sums to
floats; a merge rounds the same sums of two legs to floats and stores them on the primary. When
the two sums are floats, the position of the primary alone reads the stored floats back to the
same decimals.

## Main definitions

* `mergeDecimals`: the exact size and weighted entry a merge computes.

## Theorems

* `aggregate_eq`: the position of finite trades with ids, from their decimals.
* `aggregate_merged_primary`: the merged primary has the size and entry of the two legs.
-/

namespace TradeLedger

namespace Trade

/-- The value of a trade's size, as its decimal denotes it; zero for a float with no decimal. -/
def sizeValue (t : Trade) : ℚ := ((Decimal.ofFloat t.size).toOption.getD Decimal.zero).value

/-- The value of a trade's size times its entry price. -/
def notionalValue (t : Trade) : ℚ :=
  t.sizeValue * ((Decimal.ofFloat t.entryPrice).toOption.getD Decimal.zero).value

theorem decimals_of_finite {t : Trade} (h : t.holdingsFinite = true) :
    ∃ s p, Decimal.ofFloat t.size = .ok s ∧ Decimal.ofFloat t.entryPrice = .ok p := by
  unfold holdingsFinite at h
  rw [Bool.and_eq_true, ← Decimal.ofFloat_isOk, ← Decimal.ofFloat_isOk] at h
  obtain ⟨hs, hp⟩ := h
  rcases hs' : Decimal.ofFloat t.size with _ | s <;> rw [hs'] at hs <;> cases hs
  rcases hp' : Decimal.ofFloat t.entryPrice with _ | p <;> rw [hp'] at hp <;> cases hp
  exact ⟨s, p, rfl, rfl⟩

theorem holdingsFinite_of_decimals {t : Trade} {s p : Decimal} (hs : Decimal.ofFloat t.size = .ok s)
    (hp : Decimal.ofFloat t.entryPrice = .ok p) : t.holdingsFinite = true := by
  unfold holdingsFinite
  rw [← Decimal.ofFloat_isOk, ← Decimal.ofFloat_isOk, hs, hp]
  rfl

theorem sizeValue_eq {t : Trade} {s : Decimal} (h : Decimal.ofFloat t.size = .ok s) :
    t.sizeValue = s.value := by
  simp [sizeValue, h, Except.toOption]

theorem notionalValue_eq {t : Trade} {s p : Decimal} (hs : Decimal.ofFloat t.size = .ok s)
    (hp : Decimal.ofFloat t.entryPrice = .ok p) : t.notionalValue = s.value * p.value := by
  simp [notionalValue, sizeValue_eq hs, hp, Except.toOption]

end Trade

/-- The position a trade opens: its trader, symbol, side and creation, with itself as the
primary. -/
def Position.openedBy (trader : String) (t : Trade) : Position :=
  { traderId := trader, symbol := t.symbol, side := t.side, primaryTradeId := t.id,
    openedAt := t.createdAt }

namespace Aggregation

variable {trader : String}

/-- A push onto an aggregation that has its primary lists the trade and adds its legs. -/
theorem push_started {acc : Aggregation} {t : Trade} {s p : Decimal}
    (hstart : acc.position.primaryTradeId ≠ "") (hs : Decimal.ofFloat t.size = .ok s)
    (hp : Decimal.ofFloat t.entryPrice = .ok p) :
    push trader acc t = .ok
      { position := { acc.position with tradeIds := acc.position.tradeIds ++ [t.id] },
        size := acc.size.add s, notional := acc.notional.add (s.mul p) } := by
  simp [push, hs, hp, hstart, bind, Except.bind, pure, Except.pure]

theorem push_first {t : Trade} {s p : Decimal} (hs : Decimal.ofFloat t.size = .ok s)
    (hp : Decimal.ofFloat t.entryPrice = .ok p) :
    push trader {} t = .ok
      { position := { Position.openedBy trader t with tradeIds := [t.id] },
        size := Decimal.zero.add s, notional := Decimal.zero.add (s.mul p) } := by
  simp [push, hs, hp, Position.openedBy, bind, Except.bind, pure, Except.pure]

/-- Pushing finite trades onto an aggregation that has its primary lists them after the ids it
has and adds their sizes and notionals to its sums. -/
theorem foldlM_push_started : ∀ (ts : List Trade) (acc : Aggregation),
    acc.position.primaryTradeId ≠ "" → (∀ t ∈ ts, t.holdingsFinite = true) →
    ∃ acc', ts.foldlM (push trader) acc = .ok acc' ∧
      acc'.position = { acc.position with tradeIds := acc.position.tradeIds ++ ts.map (·.id) } ∧
      acc'.size.value = acc.size.value + (ts.map Trade.sizeValue).sum ∧
      acc'.notional.value = acc.notional.value + (ts.map Trade.notionalValue).sum
  | [], acc, _, _ => ⟨acc, rfl, by simp, by simp, by simp⟩
  | t :: ts, acc, hstart, hfin => by
    obtain ⟨s, p, hs, hp⟩ := Trade.decimals_of_finite (hfin t List.mem_cons_self)
    obtain ⟨acc', hrun, hpos, hsize, hnotional⟩ := foldlM_push_started ts
      { position := { acc.position with tradeIds := acc.position.tradeIds ++ [t.id] },
        size := acc.size.add s, notional := acc.notional.add (s.mul p) }
      hstart (fun u hu => hfin u (List.mem_cons_of_mem _ hu))
    refine ⟨acc', by rw [List.foldlM_cons, push_started hstart hs hp]; exact hrun, ?_, ?_, ?_⟩
    · rw [hpos]
      simp
    · rw [hsize, Decimal.value_add, List.map_cons, List.sum_cons, Trade.sizeValue_eq hs]
      ring
    · rw [hnotional, Decimal.value_add, Decimal.value_mul, List.map_cons, List.sum_cons,
        Trade.notionalValue_eq hs hp]
      ring

end Aggregation

/-- The position of finite trades that all have ids: the first opens it, every one is listed,
and its size and entry are the floats of decimals that denote the sum of the sizes and of the
size-weighted prices. -/
theorem aggregate_eq (trader : String) {t : Trade} {ts : List Trade}
    (hid : ∀ u ∈ t :: ts, u.id ≠ "") (hfin : ∀ u ∈ t :: ts, u.holdingsFinite = true) :
    ∃ S M : Decimal, S.value = ((t :: ts).map Trade.sizeValue).sum ∧
      M.value = ((t :: ts).map Trade.notionalValue).sum ∧
      aggregate trader (t :: ts) "" = .ok (some
        { Position.openedBy trader t with
          tradeIds := (t :: ts).map (·.id), size := S.toFloat,
          entryPrice := if S.isPositive then ((M.div S).getD Decimal.zero).toFloat else 0 }) := by
  obtain ⟨s, p, hs, hp⟩ := Trade.decimals_of_finite (hfin t List.mem_cons_self)
  have hstart : ({ Position.openedBy trader t with tradeIds := [t.id] } : Position).primaryTradeId ≠ "" :=
    hid t List.mem_cons_self
  obtain ⟨acc, hrun, hpos, hsize, hnotional⟩ := @Aggregation.foldlM_push_started trader ts
    { position := { Position.openedBy trader t with tradeIds := [t.id] },
      size := Decimal.zero.add s, notional := Decimal.zero.add (s.mul p) }
    hstart (fun u hu => hfin u (List.mem_cons_of_mem _ hu))
  refine ⟨acc.size, acc.notional, ?_, ?_, ?_⟩
  · rw [hsize, Decimal.value_add, Decimal.value_zero, List.map_cons, List.sum_cons,
      Trade.sizeValue_eq hs, zero_add]
  · rw [hnotional, Decimal.value_add, Decimal.value_mul, Decimal.value_zero, List.map_cons,
      List.sum_cons, Trade.notionalValue_eq hs hp, zero_add]
  · have hkeep : (t :: ts).filter (·.id != "") = t :: ts :=
      List.filter_eq_self.mpr fun u hu => by simpa using hid u hu
    unfold aggregate
    rw [hkeep, List.foldlM_cons, Aggregation.push_first hs hp]
    simp only [bind, Except.bind]
    rw [hrun]
    simp only [hpos, hstart, beq_iff_eq, if_false]
    rfl

/-! ### A merged primary -/

/-- The exact combined size and size-weighted entry of two legs, before either is rounded to a
float: the decimals a merge computes. -/
def mergeDecimals (sizeA priceA sizeB priceB : Float) : Exact (Decimal × Decimal) := do
  let a ← Decimal.ofFloat sizeA
  let b ← Decimal.ofFloat sizeB
  let pa ← Decimal.ofFloat priceA
  let pb ← Decimal.ofFloat priceB
  let total := a.add b
  pure (total, (((a.mul pa).add (b.mul pb)).div total).getD Decimal.zero)

theorem mergeDecimals_ok {sizeA priceA sizeB priceB : Float} {T Q : Decimal}
    (h : mergeDecimals sizeA priceA sizeB priceB = .ok (T, Q)) :
    ∃ a b pa pb, Decimal.ofFloat sizeA = .ok a ∧ Decimal.ofFloat sizeB = .ok b ∧
      Decimal.ofFloat priceA = .ok pa ∧ Decimal.ofFloat priceB = .ok pb ∧ T = a.add b ∧
      Q = (((a.mul pa).add (b.mul pb)).div (a.add b)).getD Decimal.zero := by
  unfold mergeDecimals at h
  rcases ha : Decimal.ofFloat sizeA with _ | a <;> rw [ha] at h <;> try cases h
  rcases hb : Decimal.ofFloat sizeB with _ | b <;> rw [hb] at h <;> try cases h
  rcases hpa : Decimal.ofFloat priceA with _ | pa <;> rw [hpa] at h <;> try cases h
  rcases hpb : Decimal.ofFloat priceB with _ | pb <;> rw [hpb] at h <;> cases h
  exact ⟨a, b, pa, pb, rfl, rfl, rfl, rfl, rfl, rfl⟩

/-- With a positive combined size, a merge's size and entry are the floats of its decimals. -/
theorem weightedEntry_of_mergeDecimals {sizeA priceA sizeB priceB : Float} {T Q : Decimal}
    (h : mergeDecimals sizeA priceA sizeB priceB = .ok (T, Q)) (hT : 0 < T.value) :
    weightedEntry sizeA priceA sizeB priceB = .ok (T.toFloat, Q.toFloat) := by
  obtain ⟨a, b, pa, pb, ha, hb, hpa, hpb, rfl, rfl⟩ := mergeDecimals_ok h
  have hpos : (a.add b).isPositive = true := (Decimal.isPositive_iff _).mpr hT
  simp [weightedEntry, ha, hb, hpa, hpb, hpos, bind, Except.bind, pure, Except.pure]

theorem mergeDecimals_total_pos {sizeA priceA sizeB priceB : Float} {T Q : Decimal}
    (h : mergeDecimals sizeA priceA sizeB priceB = .ok (T, Q)) (hA : 0 < sizeA) (hB : 0 < sizeB) :
    0 < T.value := by
  obtain ⟨a, b, pa, pb, ha, hb, -, -, rfl, -⟩ := mergeDecimals_ok h
  rw [Decimal.value_add]
  exact add_pos (Decimal.value_pos_of_ofFloat hA ha) (Decimal.value_pos_of_ofFloat hB hb)

/-- Quotients of decimals with the same values are the same decimal. -/
theorem Decimal.div_getD_congr {M M' S S' : Decimal} (hS : S.value ≠ 0) (hSS : S.value = S'.value)
    (hMM : M.value = M'.value) : (M.div S).getD zero = (M'.div S').getD zero := by
  rw [div_eq hS, div_eq (hSS ▸ hS), hSS, hMM]

/-- A nonzero float that holds a decimal exactly is stored as it is. -/
theorem storedFloat_toFloat {D : Decimal} (hrep : Binary64.Representable D.value) (hne : D.value ≠ 0) :
    storedFloat D.toFloat = D.toFloat := by
  obtain ⟨neg, m, e, hv, he, hm, hD⟩ := hrep.word hne
  rw [Decimal.toFloat_of_value hv he hm hD]
  unfold storedFloat
  rw [Binary64.beq_zero_eq_false (Binary64.ofFloat_assemble hv.lt hv.norm hv.low he) hm]
  rfl

/-- The float of a zero decimal is stored as a float whose decimal is zero. -/
theorem ofFloat_storedFloat_zero : Decimal.ofFloat (storedFloat Decimal.zero.toFloat) = .ok Decimal.zero := by
  decide +kernel

/-- A merged size that a float holds exactly is stored and read back as a decimal with the same
float. -/
theorem merged_size_roundtrip {T : Decimal} (hT : Binary64.Representable T.value) (hpos : 0 < T.value) :
    ∃ a', Decimal.ofFloat (storedFloat T.toFloat) = .ok a' ∧ a'.toFloat = T.toFloat ∧ 0 < a'.value := by
  obtain ⟨a', ha', hfloat, hsign, -⟩ := Decimal.ofFloat_toFloat hT hpos.ne'
  exact ⟨a', by rw [storedFloat_toFloat hT hpos.ne', ha'], hfloat, hsign.mpr hpos⟩

/-- A merged entry that a float holds exactly, cut to a quotient's places, is stored and read back
as a decimal with the same float and no more places. -/
theorem merged_entry_roundtrip {Q : Decimal} (hQ : Binary64.Representable Q.value)
    (hexp : Q.exp = -(Decimal.divisionPlaces : Int)) :
    ∃ pa', Decimal.ofFloat (storedFloat Q.toFloat) = .ok pa' ∧ pa'.toFloat = Q.toFloat ∧
      -(Decimal.divisionPlaces : Int) ≤ pa'.exp := by
  by_cases hz : Q.value = 0
  · -- a zero entry is stored as a float whose decimal is zero
    have hfloat : Q.toFloat = Decimal.zero.toFloat := Decimal.toFloat_congr (by simp [hz])
    refine ⟨Decimal.zero, by rw [hfloat]; exact ofFloat_storedFloat_zero, hfloat.symm, ?_⟩
    simp [Decimal.zero, Decimal.divisionPlaces]
  · obtain ⟨pa', hpa', hfloat, -, hgrid⟩ := Decimal.ofFloat_toFloat hQ hz
    refine ⟨pa', by rw [storedFloat_toFloat hQ hz, hpa'], hfloat, ?_⟩
    rw [← hexp]
    exact hgrid (by rw [hexp, Decimal.divisionPlaces]; omega)

/-- The position of two finite legs with ids: their ids, the float of their summed sizes, and the
float of the weighted entry a merge computes. -/
theorem aggregate_legs (trader : String) {A B : Trade} {a b pa pb : Decimal}
    (ha : Decimal.ofFloat A.size = .ok a) (hb : Decimal.ofFloat B.size = .ok b)
    (hpa : Decimal.ofFloat A.entryPrice = .ok pa) (hpb : Decimal.ofFloat B.entryPrice = .ok pb)
    (hA : A.id ≠ "") (hB : B.id ≠ "") (hpos : 0 < a.value + b.value) :
    ∃ pos, aggregate trader [A, B] "" = .ok (some pos) ∧ pos.tradeIds = [A.id, B.id] ∧
      pos.size = (a.add b).toFloat ∧
      pos.entryPrice = ((((a.mul pa).add (b.mul pb)).div (a.add b)).getD Decimal.zero).toFloat := by
  have hfin : ∀ u ∈ [A, B], u.holdingsFinite = true := by
    simp only [List.mem_cons, List.not_mem_nil, or_false, forall_eq_or_imp, forall_eq]
    exact ⟨Trade.holdingsFinite_of_decimals ha hpa, Trade.holdingsFinite_of_decimals hb hpb⟩
  obtain ⟨S, M, hS, hM, hagg⟩ := aggregate_eq trader (by simp [hA, hB]) hfin
  simp only [List.map_cons, List.map_nil, List.sum_cons, List.sum_nil, add_zero,
    Trade.sizeValue_eq ha, Trade.sizeValue_eq hb, Trade.notionalValue_eq ha hpa,
    Trade.notionalValue_eq hb hpb] at hS hM
  have hS' : S.value = (a.add b).value := by rw [hS, Decimal.value_add]
  refine ⟨_, hagg, rfl, Decimal.toFloat_congr hS', ?_⟩
  rw [if_pos ((Decimal.isPositive_iff S).mpr (hS ▸ hpos)),
    Decimal.div_getD_congr (hS ▸ hpos.ne') hS'
      (show M.value = ((a.mul pa).add (b.mul pb)).value by simp [hM])]

/-- A quotient to `divisionPlaces` places has that many places. -/
theorem Decimal.div_getD_exp {M S : Decimal} (hS : S.value ≠ 0) :
    ((M.div S).getD zero).exp = -(divisionPlaces : Int) := by
  rw [div_eq hS]
  rfl

/-- A primary that took the merged size and entry of two positive legs stands for both, when the
merged size and entry are held exactly by floats: its position has the size and entry price of
the two legs' position, in either order, and lists the primary alone. -/
theorem aggregate_merged_primary (trader : String) {P N P' : Trade} {T Q : Decimal}
    {G : List Trade} (hG : G = [P, N] ∨ G = [N, P]) (hPid : P.id ≠ "") (hNid : N.id ≠ "")
    (hne : N.id ≠ P.id) (hPpos : 0 < P.size) (hNpos : 0 < N.size)
    (hmerge : mergeDecimals P.size P.entryPrice N.size N.entryPrice = .ok (T, Q))
    (hT : Binary64.Representable T.value) (hQ : Binary64.Representable Q.value)
    (hid : P'.id = P.id) (hsize : P'.size = storedFloat T.toFloat)
    (hentry : P'.entryPrice = storedFloat Q.toFloat) :
    ∃ pos pos', aggregate trader G "" = .ok (some pos) ∧ aggregate trader [P'] "" = .ok (some pos') ∧
      pos'.size = pos.size ∧ pos'.entryPrice = pos.entryPrice ∧
      pos'.tradeIds = pos.tradeIds.filter (· ≠ N.id) := by
  obtain ⟨a, b, pa, pb, ha, hb, hpa, hpb, rfl, rfl⟩ := mergeDecimals_ok hmerge
  have hpos : 0 < a.value + b.value :=
    add_pos (Decimal.value_pos_of_ofFloat hPpos ha) (Decimal.value_pos_of_ofFloat hNpos hb)
  have htotal : (a.add b).value ≠ 0 := by rw [Decimal.value_add]; exact hpos.ne'
  -- the two legs' position, in either order
  obtain ⟨pos, hagg, hids, hsz, hen⟩ : ∃ pos, aggregate trader G "" = .ok (some pos) ∧
      pos.tradeIds.filter (· ≠ N.id) = [P.id] ∧ pos.size = (a.add b).toFloat ∧
      pos.entryPrice = ((((a.mul pa).add (b.mul pb)).div (a.add b)).getD Decimal.zero).toFloat := by
    rcases hG with rfl | rfl
    · obtain ⟨pos, h₁, h₂, h₃, h₄⟩ := aggregate_legs trader ha hb hpa hpb hPid hNid hpos
      exact ⟨pos, h₁, by simp [h₂, hne.symm], h₃, h₄⟩
    · obtain ⟨pos, h₁, h₂, h₃, h₄⟩ := aggregate_legs trader hb ha hpb hpa hNid hPid
        (by linarith)
      have hswap : (b.add a).value = (a.add b).value := by simp [add_comm]
      refine ⟨pos, h₁, by simp [h₂, hne.symm], h₃.trans (Decimal.toFloat_congr hswap), h₄.trans ?_⟩
      rw [Decimal.div_getD_congr (by rw [Decimal.value_add]; linarith) hswap
        (show ((b.mul pb).add (a.mul pa)).value = ((a.mul pa).add (b.mul pb)).value by
          simp [add_comm])]
  -- the merged primary reads back with the same floats
  obtain ⟨a', ha', hfa, hpos'⟩ := merged_size_roundtrip hT (by rw [Decimal.value_add]; exact hpos)
  obtain ⟨pa', hpa', hfpa, hgrid⟩ := merged_entry_roundtrip hQ (Decimal.div_getD_exp htotal)
  rw [← hsize] at ha'
  rw [← hentry] at hpa'
  have hone : ∀ u ∈ [P'], u.id ≠ "" := by simp [hid, hPid]
  obtain ⟨S, M, hS, hM, hagg'⟩ := aggregate_eq trader hone
    (by simpa using Trade.holdingsFinite_of_decimals ha' hpa')
  simp only [List.map_cons, List.map_nil, List.sum_cons, List.sum_nil, add_zero,
    Trade.sizeValue_eq ha', Trade.notionalValue_eq ha' hpa'] at hS hM
  refine ⟨pos, _, hagg, hagg', ?_, ?_, by rw [hids]; simp [hid]⟩
  · -- the size comes back through the stored float
    exact (Decimal.toFloat_congr hS).trans (hfa.trans hsz.symm)
  · -- dividing the one leg's notional by its size gives its stored entry back
    dsimp only
    rw [if_pos ((Decimal.isPositive_iff S).mpr (hS ▸ hpos')), hen, ← hfpa]
    exact Decimal.toFloat_congr (Decimal.div_mul_cancel_value (hS ▸ hpos'.ne') (by rw [hM, hS]) hgrid)

end TradeLedger
