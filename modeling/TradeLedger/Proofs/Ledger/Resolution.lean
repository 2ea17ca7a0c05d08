import TradeLedger.Ledger.Sync
import TradeLedger.Proofs.Reconcile.RunTally
/-!
# Resolving an order again after a payload match

A report whose venue and client ids no trade carries is resolved through the raw payloads of
recent trades, and the venue id is recorded in the id column of the leg the report's side
implies, if empty. A later report of the same order lands on the same trade and leg: through the
lookup by venue id when the column was empty, and through the payload search again when it was
set, while no other trade names the order. Both need the store to keep what resolving reads of
the trade. A report whose client id is the trade's close order id is taken for the exit leg,
whatever the side gave the first report.

## Main definitions

* `Store.KeepsOrder`: a later store keeps what resolving reads of a trade.

## Theorems

* `Desk.payload_match_resolves_alike`: a later report of the order resolves alike.
* `Desk.close_client_id_turns_entry_to_exit`: the close order id as client id picks the exit.
-/

namespace TradeLedger

/-- Whether the lookup by order id matches a trade: the id is its entry, client or close order
id. -/
def Trade.carriesOrder (t : Trade) (id : String) : Bool :=
  t.exchangeOrderId == id || t.clientOrderId == id || t.closeOrderId == id

/-- The id column a leg's order is recorded in: the entry order's venue id, or the close order
id. -/
def Trade.legOrderId (t : Trade) : Leg → String
  | .entry => t.exchangeOrderId
  | .exit => t.closeOrderId

/-- A trade with an order id recorded for a leg as a back-fill records it: only into an empty
column, stamping the time. -/
def Trade.recordOrderId (t : Trade) (now : Instant) (leg : Leg) (id : String) : Trade :=
  if (t.legOrderId leg).isEmpty then
    match leg with
    | .entry => { t with exchangeOrderId := id, updatedAt := now }
    | .exit => { t with closeOrderId := id, updatedAt := now }
  else t

/-- Two states of a trade that resolving an order cannot tell apart: the same order ids, side,
symbol and payload. -/
structure Trade.ResolvesAlike (t u : Trade) : Prop where
  exchangeOrderId : u.exchangeOrderId = t.exchangeOrderId
  clientOrderId : u.clientOrderId = t.clientOrderId
  closeOrderId : u.closeOrderId = t.closeOrderId
  side : u.side = t.side
  symbol : u.symbol = t.symbol
  rawResponse : u.rawResponse = t.rawResponse

/-- Two reports of one order: the same venue and client ids, side and symbol. -/
structure OrderUpdate.SameOrder (o o' : OrderUpdate) : Prop where
  orderId : o'.orderId = o.orderId
  clientOrderId : o'.clientOrderId = o.clientOrderId
  side : o'.side = o.side
  symbol : o'.symbol = o.symbol

/-- A later store `s'` that keeps what resolving an order with the ids `ids` reads of trade
`id`, taking `s` as the earlier store: each row of the trade resolves alike a row of the trade
in `s` and reads back, the trade still has a row, no other row carries one of the ids, and the
store is open. -/
structure Store.KeepsOrder (id : String) (ids : List String) (s s' : Store) : Prop where
  kept : ∀ r' ∈ s'.rows, r'.trade.id = id →
    ∃ r ∈ s.rows, r.trade.id = id ∧ r.trade.ResolvesAlike r'.trade
  present : ∃ r' ∈ s'.rows, r'.trade.id = id
  only : ∀ r' ∈ s'.rows, ∀ x ∈ ids, x ≠ "" → r'.trade.carriesOrder x = true → r'.trade.id = id
  reads : ∀ r' ∈ s'.rows, r'.trade.id = id → Store.Row.scan r' = .ok r'.trade
  opened : s'.closed = false

namespace Trade.ResolvesAlike

theorem refl (t : Trade) : t.ResolvesAlike t := ⟨rfl, rfl, rfl, rfl, rfl, rfl⟩

variable {t u : Trade} (h : t.ResolvesAlike u)
include h

theorem carriesOrder_eq (id : String) : u.carriesOrder id = t.carriesOrder id := by
  simp only [Trade.carriesOrder, h.exchangeOrderId, h.clientOrderId, h.closeOrderId]

theorem legOf_eq (orderId clientOrderId : String) :
    legOf u orderId clientOrderId = legOf t orderId clientOrderId := by
  simp only [legOf, h.closeOrderId]

theorem inferLeg_eq (side : OrderSide) : inferLeg u side = inferLeg t side := by
  simp only [inferLeg, h.side]

theorem payloadNames_eq (o : OrderUpdate) : Desk.payloadNames o u = Desk.payloadNames o t := by
  simp only [Desk.payloadNames, h.symbol, h.rawResponse]

end Trade.ResolvesAlike

theorem OrderUpdate.SameOrder.payloadNames_eq {o o' : OrderUpdate} (h : o.SameOrder o')
    (t : Trade) : Desk.payloadNames o' t = Desk.payloadNames o t := by
  simp only [Desk.payloadNames, h.symbol, h.orderId, h.clientOrderId]

section Record

variable {t : Trade} {now : Instant} {leg : Leg} {x : String}

theorem Trade.recordOrderId_of_set (h : (t.legOrderId leg).isEmpty = false) :
    t.recordOrderId now leg x = t := by
  simp [Trade.recordOrderId, h]

theorem Trade.carriesOrder_recordOrderId (h : (t.legOrderId leg).isEmpty = true) :
    (t.recordOrderId now leg x).carriesOrder x = true := by
  cases leg <;> simp [Trade.recordOrderId, h, Trade.carriesOrder]

/-- The id recorded into an empty column gives back its leg, when the trade carried neither of
the report's ids before. -/
theorem Trade.legOf_recordOrderId {c : String} (h : (t.legOrderId leg).isEmpty = true)
    (hx : x ≠ "") (hcx : t.carriesOrder x = false) (hcc : c ≠ "" → t.carriesOrder c = false) :
    legOf (t.recordOrderId now leg x) x c = leg := by
  cases leg with
  | entry =>
    -- the close order id is neither id, or empty
    simp only [Trade.carriesOrder, Bool.or_eq_false_iff, beq_eq_false_iff_ne] at hcx hcc
    by_cases hc : c = ""
    · subst hc
      simp [Trade.recordOrderId, h, legOf, hcx.2]
    · simp [Trade.recordOrderId, h, legOf, hcx.2, (hcc hc).2]
  | exit => simp [Trade.recordOrderId, h, legOf, hx]

end Record

namespace Store

variable {s : Store} {x : String}

theorem exists_numbered {r : Row} (hr : r ∈ s.rows) : ∃ i, (i, r) ∈ s.numbered := by
  have hsnd : s.numbered.map Prod.snd = s.rows := List.map_snd_zip (by simp)
  rw [← hsnd, List.mem_map] at hr
  obtain ⟨⟨i, r'⟩, hi, rfl⟩ := hr
  exact ⟨i, hi⟩

/-- The rows that the lookup by an order id goes through are the rows that carry the id. -/
theorem mem_orderHits {r : Row} :
    r ∈ newestFirst (s.numbered.filter fun (_, r) =>
      r.trade.exchangeOrderId == x || r.trade.clientOrderId == x || r.trade.closeOrderId == x) ↔
      r ∈ s.rows ∧ r.trade.carriesOrder x = true := by
  simp only [newestFirst, List.mem_map, mem_stableSort, List.mem_filter]
  constructor
  · rintro ⟨⟨i, r'⟩, ⟨hi, hx⟩, rfl⟩
    exact ⟨(List.of_mem_zip hi).2, hx⟩
  · rintro ⟨hr, hx⟩
    obtain ⟨i, hi⟩ := exists_numbered hr
    exact ⟨(i, r), ⟨hi, hx⟩, rfl⟩

/-- A failure of a row's read names a time column; it is of no particular kind. -/
theorem Row.scan_error_kind {r : Row} {f : Fault} (h : Row.scan r = .error f) :
    f.kind = .plain := by
  simp only [Row.scan] at h
  split at h
  · cases h
    rfl
  · cases h

/-- A lookup by a non-empty order id misses only when no row carries the id. -/
theorem findByOrder_notFound {f : Fault} (h : s.findByOrder x = .error f)
    (hkind : f.kind = .notFound) (hx : x ≠ "") : ∀ r ∈ s.rows, r.trade.carriesOrder x = false := by
  unfold findByOrder at h
  split at h
  · simp_all
  · rcases hg : s.guard ("find trade by order " ++ x ++ ": ") with e | ⟨⟩
    · -- a closed store fails with a failure of no particular kind
      simp only [hg, bind, Except.bind, Except.error.injEq] at h
      simp only [guard] at hg
      split at hg <;> cases hg
      rw [← h] at hkind
      cases hkind
    · simp only [hg, bind, Except.bind] at h
      split at h
      · -- a row that carries the id but does not read back fails with its read's failure
        rename_i r rest _
        rcases hr : Row.scan r with e | t'
        · simp only [hr, Except.mapError, Except.error.injEq] at h
          rw [← h, Fault.wrap] at hkind
          have := Row.scan_error_kind hr
          split at hkind <;> simp_all
        · simp [hr, Except.mapError] at h
      · rename_i hsort
        intro r hr
        by_contra hx'
        have hmem := mem_orderHits.mpr ⟨hr, Bool.not_eq_false _ ▸ hx'⟩
        simp_all

theorem findByOrder_missing (hopen : s.closed = false)
    (hnone : ∀ r ∈ s.rows, r.trade.carriesOrder x = false) : s.findByOrder x = .error notFound := by
  unfold findByOrder
  split
  · rfl
  · simp only [guard, hopen, Bool.false_eq_true, if_false, bind, Except.bind, pure, Except.pure]
    split
    · rename_i r rest hsort
      have hmem : r ∈ r :: rest := List.mem_cons_self
      rw [← hsort, mem_orderHits] at hmem
      simp [hnone r hmem.1] at hmem
    · rfl

/-- A lookup by an id that some row carries, where every such row reads back, answers one of
them. -/
theorem findByOrder_of_carries (hopen : s.closed = false) (hx : x ≠ "")
    (hsome : ∃ r ∈ s.rows, r.trade.carriesOrder x = true)
    (hreads : ∀ r ∈ s.rows, r.trade.carriesOrder x = true → Row.scan r = .ok r.trade) :
    ∃ r ∈ s.rows, r.trade.carriesOrder x = true ∧ s.findByOrder x = .ok r.trade := by
  obtain ⟨r₀, hr₀, hx₀⟩ := hsome
  unfold findByOrder
  rw [if_neg (by simpa using hx)]
  simp only [guard, hopen, Bool.false_eq_true, if_false, bind, Except.bind, pure, Except.pure]
  split
  · rename_i r rest hsort
    have hmem : r ∈ r :: rest := List.mem_cons_self
    rw [← hsort, mem_orderHits] at hmem
    refine ⟨r, hmem.1, hmem.2, ?_⟩
    rw [hreads r hmem.1 hmem.2]
    rfl
  · rename_i hsort
    have hmem := mem_orderHits.mpr ⟨hr₀, hx₀⟩
    simp_all

theorem recentRaw_opened {since : Instant} {limit : Int} {ts : List Trade}
    (h : s.recentRaw since limit = .ok ts) : s.closed = false := by
  unfold recentRaw at h
  exact (guard_bind_ok h).2

theorem backfill_of_opened (hopen : s.closed = false) (now : Instant) (id : String)
    (leg : Leg) (x : String) : ∃ s', s.backfill now id leg x = .ok s' := by
  unfold backfill
  simp only [guard, hopen, Bool.false_eq_true, if_false, bind, Except.bind, pure, Except.pure]
  exact ⟨_, rfl⟩

/-- After a back-fill, each row of the trade holds the order id as `Trade.recordOrderId` records
it, and the other rows are as they were. -/
theorem backfill_row {s s' : Store} {now : Instant} {id : String} {leg : Leg}
    (h : s.backfill now id leg x = .ok s') {r' : Row} (hr' : r' ∈ s'.rows) :
    (∃ r ∈ s.rows, r.trade.id = id ∧ r' = { r with trade := r.trade.recordOrderId now leg x }) ∨
      (r' ∈ s.rows ∧ r'.trade.id ≠ id) := by
  have h := (guard_bind_ok h).1
  cases h
  rcases mem_modify hr' with ⟨r, hr, hid, rfl⟩ | hother
  · refine .inl ⟨r, hr, hid, ?_⟩
    cases leg <;> simp only [Trade.recordOrderId, Trade.legOrderId] <;> split <;> simp_all
  · exact .inr hother

/-- With ids not repeated, each row of the trade after a back-fill holds the trade as
`Trade.recordOrderId` leaves it. -/
theorem backfill_trade_row {s s' : Store} {now : Instant} {leg : Leg} {r : Row}
    (h : s.backfill now r.trade.id leg x = .ok s') (hnd : (s.rows.map (·.trade.id)).Nodup)
    (hr : r ∈ s.rows) :
    ∀ r' ∈ s'.rows, r'.trade.id = r.trade.id → r'.trade = r.trade.recordOrderId now leg x := by
  intro r' hr' hid
  rcases backfill_row h hr' with ⟨r₁, hr₁, hid₁, rfl⟩ | ⟨-, hne⟩
  · rw [List.inj_on_of_nodup_map hnd hr₁ hr hid₁]
  · exact absurd hid hne

/-- A store keeps what resolving reads of a trade of its own when the trade is there, its rows
read back, and no other row carries the ids. -/
theorem keepsOrder_self {id : String} {ids : List String}
    (hpresent : ∃ r ∈ s.rows, r.trade.id = id)
    (honly : ∀ r ∈ s.rows, ∀ x ∈ ids, x ≠ "" → r.trade.carriesOrder x = true → r.trade.id = id)
    (hreads : ∀ r ∈ s.rows, r.trade.id = id → Row.scan r = .ok r.trade) (hopen : s.closed = false) :
    s.KeepsOrder id ids s :=
  ⟨fun r hr hid => ⟨r, hr, hid, .refl _⟩, hpresent, honly, hreads, hopen⟩

end Store

namespace Desk

variable {α : Type} {d : Desk} {o : OrderUpdate} {t : Trade}

/-- A trade found by its ids is answered with the leg its columns give. -/
theorem resolveOrder_found {d' : Desk}
    (h : exec (findByIds [o.orderId, o.clientOrderId]) d = (.ok (some t), d')) :
    exec (resolveOrder o) d = (.ok (t, legOf t o.orderId o.clientOrderId), d') := by
  unfold resolveOrder
  rw [exec_bind, h]
  rfl

section Quiet

variable (hst : d.plan.staged = [])
include hst

/-- With no failure staged, a store read answers what the store does and leaves the desk. -/
theorem exec_read_quiet (m : StoreMethod) (op : Store → Except Fault α) :
    exec (read m op) d = (op d.store, d) := by
  rw [exec_read, FaultPlan.trip_of_staged_nil hst]
  rcases op d.store <;> rfl

/-- One id of the lookup by ids, with no failure staged: an empty id is skipped, a miss goes on
to the next id, a hit answers, and any other failure stops the lookup. -/
theorem exec_findByIds_cons (x : String) (rest : List String) :
    exec (findByIds (x :: rest)) d =
      if x.isEmpty then exec (findByIds rest) d
      else match d.store.findByOrder x with
        | .ok t => (.ok (some t), d)
        | .error f => if f.kind == .notFound then exec (findByIds rest) d else (.error f, d) := by
  rw [findByIds.eq_2]
  split
  · rfl
  · rw [exec_bind, exec_attempt, exec_read_quiet hst]
    rcases d.store.findByOrder x with f | t
    · by_cases hp : f.kind = .panic
      · -- a stop is not a miss, and stops the lookup as any other failure does
        simp [hp]
      · by_cases hn : f.kind = .notFound <;> simp [hp, hn]
    · rfl

/-- With no failure staged, the lookup by ids leaves the desk as it was. -/
theorem exec_findByIds_desk (ids : List String) : (exec (findByIds ids) d).2 = d := by
  induction ids with
  | nil => rfl
  | cons x rest ih =>
    rw [exec_findByIds_cons hst]
    split
    · exact ih
    · split
      · rfl
      · split
        · exact ih
        · rfl

theorem findByIds_found {x : String} (rest : List String) (hx : x ≠ "")
    (h : d.store.findByOrder x = .ok t) : exec (findByIds (x :: rest)) d = (.ok (some t), d) := by
  rw [exec_findByIds_cons hst, if_neg (by simpa using hx), h]

theorem findByIds_missing {ids : List String}
    (h : ∀ x ∈ ids, x ≠ "" → d.store.findByOrder x = .error Store.notFound) :
    exec (findByIds ids) d = (.ok none, d) := by
  induction ids with
  | nil => rfl
  | cons x rest ih =>
    have hrest := ih fun y hy => h y (List.mem_cons_of_mem _ hy)
    rw [exec_findByIds_cons hst]
    split
    · exact hrest
    · rename_i hx
      rw [h x List.mem_cons_self (by simpa using hx)]
      simpa [Store.notFound] using hrest

/-- A lookup by ids that answered no trade, with no failure staged, found no row carrying one of
the ids. -/
theorem findByIds_none {ids : List String} (h : (exec (findByIds ids) d).1 = .ok none) :
    ∀ x ∈ ids, x ≠ "" → ∀ r ∈ d.store.rows, r.trade.carriesOrder x = false := by
  induction ids with
  | nil => simp
  | cons x rest ih =>
    rw [exec_findByIds_cons hst] at h
    intro y hy hy'
    split at h
    · rcases List.mem_cons.mp hy with rfl | hy
      · simp_all
      · exact ih h y hy hy'
    · rcases hf : d.store.findByOrder x with f | t
      · rw [hf] at h
        dsimp only at h
        split at h
        · rename_i hk
          rcases List.mem_cons.mp hy with rfl | hy
          · exact Store.findByOrder_notFound hf (by simpa using hk) hy'
          · exact ih h y hy hy'
        · cases h
      · rw [hf] at h
        cases h

/-- The payload search with no failure staged: the first recent trade whose payload names the
order, read without changing the desk. -/
theorem exec_scanPayloads (o : OrderUpdate) :
    exec (scanPayloads o) d =
      (match d.store.recentRaw (d.now.addDuration (-d.config.fallbackWindow))
          d.config.fallbackLimit with
        | .ok recent => match recent.find? (payloadNames o) with
          | some t => .ok t
          | none => .error Store.notFound
        | .error f => .error f, d) := by
  unfold scanPayloads
  rw [exec_bind, exec_get]
  dsimp only
  rw [exec_bind, exec_read_quiet hst]
  rcases d.store.recentRaw _ _ with f | recent
  · rfl
  · dsimp only
    rcases recent.find? (payloadNames o) with _ | t <;> rfl

/-- A payload search that answered, with no failure staged: the desk is as it was, and the
trade is the first recent trade whose payload names the order. -/
theorem scanPayloads_ok {d' : Desk}
    (h : exec (scanPayloads o) d = (.ok t, d')) :
    d' = d ∧ ∃ ts, d.store.recentRaw (d.now.addDuration (-d.config.fallbackWindow))
      d.config.fallbackLimit = .ok ts ∧ ts.find? (payloadNames o) = some t := by
  rw [exec_scanPayloads hst] at h
  rcases hr : d.store.recentRaw (d.now.addDuration (-d.config.fallbackWindow))
      d.config.fallbackLimit with f | ts
  · rw [hr] at h
    cases h
  rcases hf : ts.find? (payloadNames o) with _ | u
  · simp [hr, hf] at h
  simp only [hr, hf, Prod.mk.injEq, Except.ok.injEq] at h
  obtain ⟨rfl, rfl⟩ := h
  exact ⟨rfl, ts, rfl, hf⟩

/-- A trade found by the payload search, with no failure staged, is answered with the leg the
report's side gives, and the venue id, if the report has one, is back-filled into the store the
resolution leaves: the store was open for the search, so the back-fill goes through. -/
theorem resolveOrder_scanned
    (hfind : exec (findByIds [o.orderId, o.clientOrderId]) d = (.ok none, d))
    (hscan : exec (scanPayloads o) d = (.ok t, d)) :
    ∃ d₁, exec (resolveOrder o) d = (.ok (t, inferLeg t o.side), d₁) ∧
      (o.orderId ≠ "" → d.store.backfill d.now t.id (inferLeg t o.side) o.orderId = .ok d₁.store) := by
  obtain ⟨-, ts, hraw, -⟩ := scanPayloads_ok hst hscan
  obtain ⟨s', hs'⟩ := Store.backfill_of_opened (Store.recentRaw_opened hraw) d.now t.id
    (inferLeg t o.side) o.orderId
  unfold resolveOrder
  rw [exec_bind, hfind]
  dsimp only
  rw [exec_bind, hscan]
  dsimp only
  rw [exec_bind, exec_tally]
  dsimp only
  split
  · rw [exec_bind, exec_clock]
    dsimp only
    rw [exec_bind, exec_ignoring, exec_change]
    simp only [FaultPlan.trip_of_staged_nil hst, hs', exec_pure]
    exact ⟨_, rfl, fun _ => rfl⟩
  · rename_i hempty
    exact ⟨_, rfl, fun hX => absurd (by simpa using hempty) hX⟩

/-- What a resolution through the payloads did, with no failure staged: the leg is the one the
report's side gives, the trade is the first recent trade whose payload names the order, and the
venue id was back-filled into the store the resolution leaves. -/
theorem resolveOrder_payload {d₁ : Desk} {leg : Leg}
    (hmiss : (exec (findByIds [o.orderId, o.clientOrderId]) d).1 = .ok none)
    (h : exec (resolveOrder o) d = (.ok (t, leg), d₁)) (hX : o.orderId ≠ "") :
    leg = inferLeg t o.side ∧
      (∃ ts, d.store.recentRaw (d.now.addDuration (-d.config.fallbackWindow))
          d.config.fallbackLimit = .ok ts ∧ ts.find? (payloadNames o) = some t) ∧
      d.store.backfill d.now t.id leg o.orderId = .ok d₁.store := by
  have hfind : exec (findByIds [o.orderId, o.clientOrderId]) d = (.ok none, d) :=
    Prod.ext hmiss (exec_findByIds_desk hst _)
  -- the search answered the trade, or the resolution would have failed
  have h₀ := h
  unfold resolveOrder at h₀
  rw [exec_bind, hfind] at h₀
  obtain ⟨u, d₂, hscan, -⟩ := exec_bind_ok h₀
  obtain ⟨rfl, ts, hraw, hf⟩ := scanPayloads_ok hst hscan
  obtain ⟨d₁', hres, hback⟩ := resolveOrder_scanned hst hfind hscan
  rw [hres] at h
  simp only [Prod.mk.injEq, Except.ok.injEq] at h
  obtain ⟨⟨rfl, rfl⟩, rfl⟩ := h
  exact ⟨rfl, ⟨ts, hraw, hf⟩, hback hX⟩

/-- A later report of the order after its venue id was recorded into an empty column: the lookup
by the venue id finds a row of the trade, whose columns give back the leg recorded. -/
theorem resolveOrder_recorded {s : Store} {o o' : OrderUpdate} {now : Instant}
    {leg : Leg} (hsame : o.SameOrder o') (hX : o.orderId ≠ "")
    (hkeeps : s.KeepsOrder t.id [o.orderId, o.clientOrderId] d.store)
    (hrec : ∀ r ∈ s.rows, r.trade.id = t.id → r.trade = t.recordOrderId now leg o.orderId)
    (hempty : (t.legOrderId leg).isEmpty = true) (hcx : t.carriesOrder o.orderId = false)
    (hcc : o.clientOrderId ≠ "" → t.carriesOrder o.clientOrderId = false) :
    ∃ t₂, t₂.id = t.id ∧
      exec (findByIds [o'.orderId, o'.clientOrderId]) d = (.ok (some t₂), d) ∧
      exec (resolveOrder o') d = (.ok (t₂, leg), d) := by
  -- every row of the trade carries the venue id and reads the recorded leg off its columns
  have hrow : ∀ r₂ ∈ d.store.rows, r₂.trade.id = t.id →
      r₂.trade.carriesOrder o.orderId = true ∧ legOf r₂.trade o.orderId o.clientOrderId = leg := by
    intro r₂ hr₂ hid
    obtain ⟨r₁, hr₁, hid₁, halike⟩ := hkeeps.kept r₂ hr₂ hid
    rw [hrec r₁ hr₁ hid₁] at halike
    exact ⟨halike.carriesOrder_eq _ ▸ Trade.carriesOrder_recordOrderId hempty,
      halike.legOf_eq _ _ ▸ Trade.legOf_recordOrderId hempty hX hcx hcc⟩
  have honly : ∀ r ∈ d.store.rows, r.trade.carriesOrder o.orderId = true → r.trade.id = t.id :=
    fun r hr hc => hkeeps.only r hr _ List.mem_cons_self hX hc
  obtain ⟨r₂, hr₂, hid₂⟩ := hkeeps.present
  obtain ⟨r, hr, hcar, hfind⟩ := Store.findByOrder_of_carries hkeeps.opened hX
    ⟨r₂, hr₂, (hrow r₂ hr₂ hid₂).1⟩ fun r hr hc => hkeeps.reads r hr (honly r hr hc)
  have hid := honly r hr hcar
  have hlook : exec (findByIds [o'.orderId, o'.clientOrderId]) d = (.ok (some r.trade), d) := by
    rw [hsame.orderId]
    exact findByIds_found hst _ hX hfind
  refine ⟨r.trade, hid, hlook, ?_⟩
  rw [resolveOrder_found hlook, hsame.orderId, hsame.clientOrderId, (hrow r hr hid).2]

/-- A later report of the order when its leg's column was already set: neither id is found, and
the payload search finds a row of the trade again, as long as the trade is among the trades
searched and no other trade there names the order. -/
theorem resolveOrder_rescanned {s : Store} {o o' : OrderUpdate} {ts : List Trade}
    (hsame : o.SameOrder o') (hkeeps : s.KeepsOrder t.id [o.orderId, o.clientOrderId] d.store)
    (hrows : ∀ r ∈ s.rows, r.trade.id = t.id → r.trade = t)
    (hcarries : ∀ x ∈ [o.orderId, o.clientOrderId], x ≠ "" → t.carriesOrder x = false)
    (hnames : payloadNames o t = true)
    (hraw : d.store.recentRaw (d.now.addDuration (-d.config.fallbackWindow))
      d.config.fallbackLimit = .ok ts)
    (hwithin : ∃ u ∈ ts, u.id = t.id) (halone : ∀ u ∈ ts, payloadNames o' u = true → u.id = t.id) :
    ∃ t₂, t₂.id = t.id ∧
      exec (findByIds [o'.orderId, o'.clientOrderId]) d = (.ok none, d) ∧
      (exec (resolveOrder o') d).1 = .ok (t₂, inferLeg t o.side) := by
  -- the rows of the trade resolve as the trade did
  have halike : ∀ r ∈ d.store.rows, r.trade.id = t.id → t.ResolvesAlike r.trade := by
    intro r hr hid
    obtain ⟨r₁, hr₁, hid₁, halike⟩ := hkeeps.kept r hr hid
    rwa [hrows r₁ hr₁ hid₁] at halike
  -- so no row carries either id: the trade's rows do not, and no other row may
  have hmissing : ∀ x ∈ [o.orderId, o.clientOrderId], x ≠ "" →
      d.store.findByOrder x = .error Store.notFound := by
    intro x hx hne
    refine Store.findByOrder_missing hkeeps.opened fun r hr => ?_
    by_contra hc
    have hid := hkeeps.only r hr x hx hne (by simpa using hc)
    rw [(halike r hr hid).carriesOrder_eq, hcarries x hx hne] at hc
    exact hc rfl
  have hlook : exec (findByIds [o'.orderId, o'.clientOrderId]) d = (.ok none, d) := by
    rw [hsame.orderId, hsame.clientOrderId]
    exact findByIds_missing hst hmissing
  -- the trade is within the search, and its payload names the order
  obtain ⟨u₀, hu₀, hid₀⟩ := hwithin
  obtain ⟨r₀, hr₀, rfl⟩ := Store.recentRaw_ok hraw u₀ hu₀
  have hnames₀ : payloadNames o' r₀.trade = true := by
    rw [hsame.payloadNames_eq, (halike r₀ hr₀ hid₀).payloadNames_eq, hnames]
  obtain ⟨u, hu⟩ := Option.isSome_iff_exists.mp (List.find?_isSome.mpr ⟨_, hu₀, hnames₀⟩)
  have hmem := List.mem_of_find?_eq_some hu
  have huid := halone u hmem (List.find?_some hu)
  obtain ⟨ru, hru, rfl⟩ := Store.recentRaw_ok hraw u hmem
  have hscan : exec (scanPayloads o') d = (.ok ru.trade, d) := by
    rw [exec_scanPayloads hst, hraw]
    simp only [hu]
  obtain ⟨d₁, hres, -⟩ := resolveOrder_scanned hst hlook hscan
  refine ⟨ru.trade, huid, hlook, ?_⟩
  rw [hres, (halike ru hru huid).inferLeg_eq, hsame.side]

end Quiet

/-- A report of an order resolved through the payloads, with no failure staged, settles the
order's later reports: the first report's leg is its side's, and a later report of the order
resolves to a row of the same trade and the same leg. With the leg's column empty it does so by
the venue id, now recorded; with the column set, by the payload search again, while the trade is
among those searched and no other there names the order. The later store must keep what
resolving reads of the trade (`Store.KeepsOrder`), with no failure staged. -/
theorem payload_match_resolves_alike {d d₁ d₂ : Desk} {o o' : OrderUpdate} {t : Trade}
    {leg : Leg} (hst : d.plan.staged = []) (hnd : (d.store.rows.map (·.trade.id)).Nodup)
    (hX : o.orderId ≠ "")
    (hmiss : (exec (findByIds [o.orderId, o.clientOrderId]) d).1 = .ok none)
    (hfirst : exec (resolveOrder o) d = (.ok (t, leg), d₁))
    (hsame : o.SameOrder o') (hst₂ : d₂.plan.staged = [])
    (hkeeps : d₁.store.KeepsOrder t.id [o.orderId, o.clientOrderId] d₂.store)
    (hwindow : (t.legOrderId leg).isEmpty = false → ∃ ts,
      d₂.store.recentRaw (d₂.now.addDuration (-d₂.config.fallbackWindow))
        d₂.config.fallbackLimit = .ok ts ∧
      (∃ u ∈ ts, u.id = t.id) ∧ ∀ u ∈ ts, payloadNames o' u = true → u.id = t.id) :
    leg = inferLeg t o.side ∧ ∃ t₂, t₂.id = t.id ∧
      (exec (findByIds [o'.orderId, o'.clientOrderId]) d₂).1 =
        .ok (if (t.legOrderId leg).isEmpty then some t₂ else none) ∧
      (exec (resolveOrder o') d₂).1 = .ok (t₂, leg) := by
  obtain ⟨hleg, ⟨ts₀, hraw₀, hfind₀⟩, hback⟩ := resolveOrder_payload hst hmiss hfirst hX
  -- the trade is a stored row's, which carried neither id before the report
  obtain ⟨r₀, hr₀, rfl⟩ := Store.recentRaw_ok hraw₀ _ (List.mem_of_find?_eq_some hfind₀)
  have hcarries : ∀ x ∈ [o.orderId, o.clientOrderId], x ≠ "" →
      r₀.trade.carriesOrder x = false :=
    fun x hx hne => findByIds_none hst hmiss x hx hne r₀ hr₀
  have hrec := Store.backfill_trade_row hback hnd hr₀
  refine ⟨hleg, ?_⟩
  cases hempty : (r₀.trade.legOrderId leg).isEmpty
  · -- the column was set: nothing was recorded, and the search finds the trade again
    obtain ⟨ts, hraw, hwithin, halone⟩ := hwindow hempty
    rw [Trade.recordOrderId_of_set hempty] at hrec
    obtain ⟨t₂, hid, hlook, hres⟩ := resolveOrder_rescanned hst₂ hsame hkeeps hrec hcarries
      (List.find?_some hfind₀) hraw hwithin halone
    exact ⟨t₂, hid, by rw [hlook]; rfl, by rw [hres, hleg]⟩
  · -- the column was empty: the venue id now finds the trade
    obtain ⟨t₂, hid, hlook, hres⟩ := resolveOrder_recorded hst₂ hsame hX hkeeps hrec hempty
      (hcarries _ List.mem_cons_self hX) (hcarries _ (by simp))
    exact ⟨t₂, hid, by rw [hlook]; rfl, by rw [hres]⟩

/-- A long trade with close order `Y`, placed with a payload that names venue order 555. -/
def paidTrade : Trade :=
  { id := "t", traderId := "T", symbol := "BTCUSDT", side := .long, size := 1, entryPrice := 100,
    closeOrderId := "Y", rawResponse := "\x7b\"orderId\":555\x7d",
    createdAt := some 1790856000000 }

/-- A desk that holds one trade, with nothing staged. -/
def deskHolding (t : Trade) : Desk :=
  { now := some 1790856000000, store := { rows := [Store.Row.ofNew t] } }

/-- Venue order 555 acknowledged, with no client id. -/
def acknowledged : OrderUpdate :=
  { symbol := "BTCUSDT", orderId := "555", side := .buy, status := .new }

/-- Venue order 555 filled. -/
def filledReport : OrderUpdate :=
  { acknowledged with status := .filled, cumulativeQty := 1, avgPrice := 101, lastPrice := 101 }

/-- The desk after the acknowledgement of order 555 was resolved, on a desk holding `t`. -/
def afterAcknowledged (t : Trade) : Desk :=
  (exec (resolveOrder acknowledged) (deskHolding t)).2

/-- The trade of the first report with its entry order `E1` already on record. -/
def heldTrade : Trade := { paidTrade with exchangeOrderId := "E1" }

theorem filled_report_resolves_like_acknowledged :
    (Leg.entry = inferLeg (Store.Row.ofNew paidTrade).trade acknowledged.side ∧
      ∃ t₂, t₂.id = (Store.Row.ofNew paidTrade).trade.id ∧
        (exec (findByIds [filledReport.orderId, filledReport.clientOrderId])
            (afterAcknowledged paidTrade)).1 =
          .ok (if ((Store.Row.ofNew paidTrade).trade.legOrderId .entry).isEmpty then some t₂
            else none) ∧
        (exec (resolveOrder filledReport) (afterAcknowledged paidTrade)).1 = .ok (t₂, .entry)) ∧
    (Leg.entry = inferLeg (Store.Row.ofNew heldTrade).trade acknowledged.side ∧
      ∃ t₂, t₂.id = (Store.Row.ofNew heldTrade).trade.id ∧
        (exec (findByIds [filledReport.orderId, filledReport.clientOrderId])
            (afterAcknowledged heldTrade)).1 =
          .ok (if ((Store.Row.ofNew heldTrade).trade.legOrderId .entry).isEmpty then some t₂
            else none) ∧
        (exec (resolveOrder filledReport) (afterAcknowledged heldTrade)).1 = .ok (t₂, .entry)) := by
  constructor
  · -- the acknowledgement recorded 555 as the entry order of the trade's one row
    have hstore : (afterAcknowledged paidTrade).store =
        { rows := [{ Store.Row.ofNew paidTrade with
          trade := (Store.Row.ofNew paidTrade).trade.recordOrderId (some 1790856000000) .entry
            "555" }] } := by
      with_unfolding_all rfl
    refine payload_match_resolves_alike (d := deskHolding paidTrade) rfl
      (by decide +kernel) (by decide) (by with_unfolding_all rfl)
      (Prod.ext (by with_unfolding_all rfl) rfl) ⟨rfl, rfl, rfl, rfl⟩ (by with_unfolding_all rfl) ?_
      fun h => absurd h (by decide)
    change Store.KeepsOrder _ _ (afterAcknowledged _).store (afterAcknowledged _).store
    rw [hstore]
    exact Store.keepsOrder_self ⟨_, List.mem_singleton_self _, rfl⟩ (by decide +kernel)
      (fun r hr _ => by rw [List.mem_singleton.mp hr]; with_unfolding_all rfl) rfl
  · -- the entry column was set, so nothing was recorded and the search finds the trade again
    have hstore :
        (afterAcknowledged heldTrade).store = { rows := [Store.Row.ofNew heldTrade] } := by
      with_unfolding_all rfl
    refine payload_match_resolves_alike (d := deskHolding heldTrade) rfl
      (by decide +kernel) (by decide) (by with_unfolding_all rfl)
      (Prod.ext (by with_unfolding_all rfl) rfl) ⟨rfl, rfl, rfl, rfl⟩ (by with_unfolding_all rfl) ?_
      fun _ => ⟨[(Store.Row.ofNew heldTrade).trade], by with_unfolding_all rfl,
        ⟨_, List.mem_singleton_self _, rfl⟩, fun u hu _ => by rw [List.mem_singleton.mp hu]⟩
    change Store.KeepsOrder _ _ (afterAcknowledged _).store (afterAcknowledged _).store
    rw [hstore]
    exact Store.keepsOrder_self ⟨_, List.mem_singleton_self _, rfl⟩ (by decide +kernel)
      (fun r hr _ => by rw [List.mem_singleton.mp hr]; with_unfolding_all rfl) rfl

/-- A report of order 555 that carries the trade's close order `Y` as its client id. -/
def closeClientReport : OrderUpdate := { filledReport with clientOrderId := "Y" }

/-- Order 555, acknowledged with no client id, is found through the trade's payload and recorded
as its entry order. Its fill, reported with the client id `Y` that the trade holds as its close
order, resolves to the same trade but to the exit leg. -/
theorem close_client_id_turns_entry_to_exit :
    ((exec (findByIds [acknowledged.orderId, acknowledged.clientOrderId])
        (deskHolding paidTrade)).1.toOption.map Option.isNone) = some true ∧
      ((exec (resolveOrder acknowledged) (deskHolding paidTrade)).1.toOption.map
        fun (t, leg) => (t.id, leg)) = some ("t", .entry) ∧
      ((afterAcknowledged paidTrade).store.find? "t").map (·.trade.exchangeOrderId) = some "555" ∧
      ((exec (resolveOrder closeClientReport) (afterAcknowledged paidTrade)).1.toOption.map
        fun (t, leg) => (t.id, leg)) = some ("t", .exit) := by
  decide +kernel

end Desk

end TradeLedger
