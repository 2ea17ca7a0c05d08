import TradeLedger.Proofs.Position.Fills
/-!
# One live trade per trader and symbol over a session

A session is a list of requests to the desk: rows created, new trades put through admission,
stored trades admitted, positions replaced by a stored trade, and execution reports. The
property is asked at the end of a session where every live row was settled by an admission
answering with the outcome of a conflict check. A replacement promotes the trade it is handed
without looking at that trade's symbol.

## Main definitions

* `Request`, `Request.session`: the requests and a run of them.

## Theorems

* `Request.serve_keeps`: each request keeps `Desk.OneLive` with the ids it settled added.
* `session_one_live`: from an empty ledger, a whole session does.
* `replace_across_symbols_two_live`: a trade handed to the replacement of a position on another
  symbol comes back live beside the position that rejected it.
-/

namespace TradeLedger

/-- A request to the desk in a session of the ledger. -/
inductive Request where
  /-- a trade row created, with the id the store makes up when the trade has none -/
  | create (freshId : String) (t : Trade)
  /-- a new trade put through admission -/
  | process (nt : NewTrade)
  /-- a stored trade admitted -/
  | admitById (id : String)
  /-- a trader's position on a symbol and side replaced by a stored trade -/
  | replace (trader symbol : String) (side : TradeSide) (newId : String)
  /-- an execution report -/
  | order (eventTime : Int) (o : OrderUpdate)

namespace Request

def isReplace : Request → Bool
  | .replace .. => true
  | _ => false

end Request

/-- Whether a stored row is the trade a new trade describes: its id, trader, symbol and side. -/
def NewTrade.describes (nt : NewTrade) (r : Row) : Bool :=
  r.trade.id == nt.tradeId && r.trade.traderId == nt.traderId && r.trade.symbol == nt.symbol &&
    r.trade.side == nt.side

/-- A row created as the ledger creates it, past the staged failures; a refused row leaves the
desk as it was. -/
def Desk.createRow (d : Desk) (freshId : String) (t : Trade) : Desk :=
  match d.store.create d.now freshId t with
  | .ok (_, s) => { d with store := s }
  | .error _ => d

namespace Request

open Desk

/-- A request served: the desk it leaves, and the trade it settled. An admission settles its
trade when it was given the stored trade and answered with the outcome of a conflict check. -/
def serve : Request → Desk → Desk × Option String
  | .create freshId t, d => (d.createRow freshId t, none)
  | .process nt, d =>
    match exec (processTrade nt) d with
    | (.ok o, d') =>
      (d', if !o.degraded && d.store.rows.any nt.describes then some nt.tradeId else none)
    | (.error _, d') => (d', none)
  | .admitById id, d =>
    match exec (admitTrade id) d with
    | (.ok o, d') => (d', if o.degraded then none else some id)
    | (.error _, d') => (d', none)
  | .replace trader symbol side newId, d => ((exec (replaceTrade trader symbol side newId) d).2, none)
  | .order eventTime o, d => ((exec (handleOrder eventTime o) d).2, none)

/-- A session served from a desk: the desk it leaves, and the trades it settled, the latest
first. -/
def session : List Request → Desk → Desk × List String
  | [], d => (d, [])
  | q :: qs, d =>
    let step := q.serve d
    let rest := session qs step.1
    (rest.1, rest.2 ++ step.2.toList)

@[simp] theorem session_nil (d : Desk) : session [] d = (d, []) := rfl

@[simp] theorem session_cons (q : Request) (qs : List Request) (d : Desk) :
    session (q :: qs) d =
      let step := q.serve d
      let rest := session qs step.1
      (rest.1, rest.2 ++ step.2.toList) := rfl

end Request

namespace Desk

variable {P : List String}

/-- A created row keeps the invariant: its id is new, so it is not held. -/
theorem OneLive.of_create {d : Desk} (h : OneLive P d) (freshId : String) (t : Trade) :
    OneLive P (d.createRow freshId t) := by
  unfold createRow
  split
  · rename_i t' s hc
    obtain ⟨hrows, hfresh, -, -⟩ := Store.create_ok hc
    have hnew : t'.id ∉ P := fun hp => by
      obtain ⟨r, hr, hid, -⟩ := h.admitted _ hp
      exact hfresh r hr hid
    -- the held rows of the new store are rows of the old one
    have hold : ∀ r ∈ s.rows, r.trade.id ∈ P → r ∈ d.store.rows := by
      intro r hr hp
      rw [hrows] at hr
      rcases List.mem_append.mp hr with hr | hr
      · exact hr
      · rw [List.mem_singleton] at hr
        subst hr
        exact absurd hp hnew
    exact {
      nodup := by
        show (s.rows.map (·.trade.id)).Nodup
        rw [hrows, List.map_append]
        exact List.nodup_append.mpr ⟨h.nodup, List.nodup_singleton _, fun a ha b hb => by
          obtain ⟨r, hr, rfl⟩ := List.mem_map.mp ha
          rw [List.map_singleton, List.mem_singleton] at hb
          exact hb ▸ hfresh r hr⟩
      admitted := fun x hx => by
        obtain ⟨r, hr, hrest⟩ := h.admitted x hx
        exact ⟨r, by rw [hrows]; exact List.mem_append_left _ hr, hrest⟩
      unique := fun r₁ hr₁ r₂ hr₂ hh₁ hh₂ hsame =>
        h.unique r₁ (hold r₁ hr₁ hh₁.2) r₂ (hold r₂ hr₂ hh₂.2) hh₁ hh₂ hsame
      covered := fun trader S hS r hr hheld htrader =>
        h.covered trader S hS r (hold r hr hheld.2) hheld htrader
      spares := h.spares }
  · exact h

end Desk

namespace Request

open Desk

variable {P : List String}

/-- Each request other than a replacement keeps the invariant, with the trade it settled
added to the held ones. -/
theorem serve_keeps {q : Request} (hq : q.isReplace = false) {d : Desk} (h : OneLive P d) :
    OneLive ((q.serve d).2.toList ++ P) (q.serve d).1 := by
  cases q with
  | create freshId t => exact h.of_create freshId t
  | process nt =>
    rcases hx : exec (processTrade nt) d with ⟨f | o, d'⟩
    · simp only [serve, hx, Option.toList_none, List.nil_append]
      exact ((keeps_processTrade nt).of_exec hx h).2
    · simp only [serve, hx]
      split
      · rename_i hsettled
        simp only [Bool.and_eq_true, Bool.not_eq_true'] at hsettled
        obtain ⟨r, hr, hdesc⟩ := List.any_eq_true.mp hsettled.2
        simp only [NewTrade.describes, Bool.and_eq_true, beq_iff_eq] at hdesc
        obtain ⟨⟨⟨hid, htrader⟩, hsymbol⟩, hside⟩ := hdesc
        exact processTrade_admits h hr hid htrader hsymbol hside hx hsettled.1
      · simp only [Option.toList_none, List.nil_append]
        exact ((keeps_processTrade nt).of_exec hx h).2
  | admitById id =>
    rcases hx : exec (admitTrade id) d with ⟨f | o, d'⟩
    · simp only [serve, hx, Option.toList_none, List.nil_append]
      exact ((keeps_admitTrade id).of_exec hx h).2
    · simp only [serve, hx]
      split
      · simp only [Option.toList_none, List.nil_append]
        exact ((keeps_admitTrade id).of_exec hx h).2
      · rename_i hchecked
        exact admitTrade_admits h hx (Bool.eq_false_iff.mpr hchecked)
  | replace trader symbol side newId => cases hq
  | order eventTime o => exact (keeps_handleOrder eventTime o d h).2

/-- A session without replacements keeps the invariant, with every trade it settled added to
the held ones. -/
theorem session_keeps {qs : List Request} (hq : ∀ q ∈ qs, q.isReplace = false) {d : Desk}
    (h : OneLive P d) : OneLive ((session qs d).2 ++ P) (session qs d).1 := by
  induction qs generalizing d P with
  | nil => exact h
  | cons q qs ih =>
    have hstep := serve_keeps (hq q List.mem_cons_self) h
    have hrest := ih (fun q' hq' => hq q' (List.mem_cons_of_mem q hq')) hstep
    rw [session_cons, List.append_assoc]
    exact hrest

end Request

open Request in
/-- From an empty ledger, a session of creations, admissions and execution reports, at whose
end every live row has been settled, leaves each trader at most one live trade per symbol,
symbols compared in upper case. -/
theorem session_one_live {qs : List Request} {d : Desk} (hempty : d.store.rows = [])
    (hspares : d.plan.sparesWrites) (hq : ∀ q ∈ qs, q.isReplace = false)
    (hsettled : ∀ r ∈ (session qs d).1.store.rows, r.trade.status.live = true →
      r.trade.id ∈ (session qs d).2)
    (trader symbol : String) :
    ((session qs d).1.store.rows.filter fun r => r.trade.traderId == trader &&
      String.toUpperSimple r.trade.symbol == String.toUpperSimple symbol &&
        r.trade.status.live).length ≤ 1 := by
  -- an empty ledger holds nothing, and every cached snapshot shows all of nothing
  have hstart : Desk.OneLive [] d :=
    { nodup := by simp [hempty]
      admitted := by simp
      unique := by simp [hempty]
      covered := fun _ _ _ r hr => by simp [hempty] at hr
      spares := hspares }
  have hend := session_keeps hq hstart
  rw [List.append_nil] at hend
  exact hend.live_unique hsettled trader symbol

/-- A trade of trader `T` for one unit at a hundred. -/
def sampleTrade (id symbol : String) (side : TradeSide) : Trade :=
  { id := id, traderId := "T", symbol := symbol, side := side, size := 1, entryPrice := 100 }

/-- A long trade on ETH admitted, a short one on ETH rejected against it, and a long one on BTC
admitted. -/
def openingSession : List Request :=
  [.create "" (sampleTrade "c" "ETH" .long), .process (.ofTrade (sampleTrade "c" "ETH" .long)),
    .create "" (sampleTrade "b" "ETH" .short), .process (.ofTrade (sampleTrade "b" "ETH" .short)),
    .create "" (sampleTrade "a" "BTC" .long), .admitById "a"]

open Request in
theorem opening_session_one_live :
    ({ now := none } : Desk).store.rows = [] ∧ ({ now := none } : Desk).plan.sparesWrites ∧
      (∀ q ∈ openingSession, q.isReplace = false) ∧
      (∀ r ∈ (session openingSession { now := none }).1.store.rows, r.trade.status.live = true →
        r.trade.id ∈ (session openingSession { now := none }).2) ∧
      ((session openingSession { now := none }).1.store.rows.filter fun r =>
        r.trade.traderId == "T" && String.toUpperSimple r.trade.symbol == String.toUpperSimple "eth" &&
          r.trade.status.live).length ≤ 1 := by
  have hspares : ({ now := none } : Desk).plan.sparesWrites := by
    intro _ h
    cases h
  have hsettled : ∀ r ∈ (session openingSession { now := none }).1.store.rows,
      r.trade.status.live = true → r.trade.id ∈ (session openingSession { now := none }).2 := by
    decide +kernel
  exact ⟨rfl, hspares, by decide, hsettled,
    session_one_live rfl hspares (by decide) hsettled "T" "eth"⟩

/-- The same session, then the BTC position replaced by the trade rejected on ETH. -/
def replaceSession : List Request :=
  openingSession ++ [.replace "T" "BTC" .long "b"]

open Request in
/-- A replacement promotes the trade it is handed whatever that trade's symbol: the trade
rejected on ETH is live again next to the ETH trade that rejected it, though every live row was
settled. -/
theorem replace_across_symbols_two_live :
    (∀ r ∈ (session replaceSession { now := none }).1.store.rows, r.trade.status.live = true →
        r.trade.id ∈ (session replaceSession { now := none }).2) ∧
      ((session replaceSession { now := none }).1.store.rows.filter fun r =>
        r.trade.traderId == "T" && String.toUpperSimple r.trade.symbol == String.toUpperSimple "ETH" &&
          r.trade.status.live).length = 2 := by
  decide +kernel

/- The replacement's symbol is not all that matters: a replacement on the trade's own symbol and
side closes only that side of the position, so the trade rejected against the other side comes
back live beside the trade that rejected it. -/
open Request in
example :
    ((session ([.create "" (sampleTrade "c" "ETH" .long),
        .process (.ofTrade (sampleTrade "c" "ETH" .long)), .create "" (sampleTrade "b" "ETH" .short),
        .process (.ofTrade (sampleTrade "b" "ETH" .short)), .create "" (sampleTrade "u" "ETH" .short),
        .replace "T" "ETH" .short "b"]) { now := none }).1.store.rows.filter fun r =>
      r.trade.status.live).map (·.trade.id) = ["c", "b"] := by
  decide +kernel

end TradeLedger
