import TradeLedger.Event.Decode
import TradeLedger.Proofs.Number.FloatOrder
/-!
# What a decoded event guarantees

Consumers of stream events act on their fields without checking them again: the sync handler
matches a report by its order ids and advances the trade by its status and cumulative quantity,
the price cache stores a tick's price, the balance manager replaces an asset's row.

The events of a frame are exactly the events of its elements, however arrays and envelopes nest
them, and each comes from an element whose body decoder accepted it. The body decoders' checks
are comparisons with zero (`< 0`, `<= 0`), which every number either passes or fails; so each
event's quantities, prices and locked amounts are bounded below as its consumers assume, as long
as they are numbers. A NaN fails no comparison and passes every check, and an infinity passes
the checks it lies on the right side of: a report whose quantity is the text `Inf` decodes.

## Main definitions

* `Event.Sound`: what the consumers of an event rely on.

## Theorems

* `Frame.decode_events_sound`: every event of every frame is sound.
* `Frame.decode_admits_infinite_quantity`: an infinite cumulative quantity gets through.
-/

namespace TradeLedger

theorem Decoded.foldl_append {α : Type} (g : α → Decoded) (xs : List α) (init : Decoded) :
    xs.foldl (fun acc x => acc.append (g x)) init =
      ⟨init.events ++ xs.flatMap (fun x => (g x).events),
        init.errors ++ xs.flatMap (fun x => (g x).errors)⟩ := by
  induction xs generalizing init with
  | nil => simp
  | cons x xs ih =>
    rw [List.foldl_cons, ih]
    simp [Decoded.append]

theorem Except.exists_of_map_eq_ok {ε α β : Type} {f : α → β} {x : Except ε α} {b : β}
    (h : x.map f = .ok b) : ∃ a, x = .ok a ∧ f a = b := by
  cases x with
  | error e => cases h
  | ok a =>
    cases h
    exact ⟨a, rfl, rfl⟩

theorem String.toUpperSimple_ne_empty {s : String} (h : s ≠ "") :
    String.toUpperSimple s ≠ "" := by
  rw [Ne, ← String.length_eq_zero_iff, String.toUpperSimple, String.length_map,
    String.length_eq_zero_iff]
  exact h

/-- The six statuses an order can have at the venue. -/
def OrderStatus.canonical : List OrderStatus :=
  [.new, .partiallyFilled, .filled, .canceled, .expired, .rejected]

theorem OrderStatus.parse_mem_canonical {s : String} (h : OrderStatus.parse s ≠ .unknown) :
    OrderStatus.parse s ∈ OrderStatus.canonical := by
  unfold OrderStatus.parse at h ⊢
  split <;> simp_all [OrderStatus.canonical]

/-! ### Every event comes from an accepted body -/

namespace Frame

/-- The events of an element are the events of the bodies it holds: an array's come from its
items, an envelope's from its data, and an object with a known event type contributes its own
when its body decoder accepts it. -/
theorem mem_decodeElement_events : ∀ (fuel : Nat) (frame : List UInt8) (stream : String)
    (ev : Event), ev ∈ (decodeElement fuel frame stream).events →
      ∃ bytes, Event.decodeBody ev.type bytes = some (.ok ev.payload) := by
  intro fuel
  induction fuel with
  | zero => intro frame stream ev h; simp [decodeElement] at h
  | succ fuel ih =>
    intro frame stream ev h
    unfold decodeElement at h
    split at h
    · simp at h
    · split at h
      · -- an array: the event is one of an item's
        split at h
        · simp at h
        · rw [Decoded.foldl_append] at h
          simp only [List.nil_append, List.mem_flatMap] at h
          obtain ⟨item, -, hitem⟩ := h
          exact ih _ _ ev hitem
      · split at h
        · -- an object: an envelope's data, or its own body
          split at h
          · simp at h
          · dsimp only at h
            split at h
            · exact ih _ _ ev h
            · simp at h
            · split at h
              · simp at h
              · split at h
                · simp at h
                · simp at h
                · rename_i payload hbody
                  simp only [List.mem_singleton] at h
                  subst h
                  exact ⟨_, hbody⟩
        · simp at h

end Frame

/-! ### Each body decoder checks what it returns -/

namespace Event

open TradeLedger.Frame

theorem checkOrder_eq_ok {o o' : OrderUpdate} (h : checkOrder o = .ok o') :
    o' = o ∧ o.symbol ≠ "" ∧ (o.orderId ≠ "" ∨ o.clientOrderId ≠ "") ∧
      o.status ≠ .unknown ∧ ¬ o.cumulativeQty < 0 := by
  simp only [checkOrder] at h
  -- each refusal is an error, so only the last branch answers
  split at h; · cases h
  rename_i hsym
  split at h; · cases h
  rename_i hid
  split at h; · cases h
  rename_i hstatus
  split at h; · cases h
  rename_i hqty
  cases h
  refine ⟨rfl, ?_, ?_, ?_, hqty⟩
  · simpa using hsym
  · simp only [Bool.and_eq_true, beq_iff_eq, not_and] at hid
    by_cases ho : o.orderId = ""
    · exact Or.inr (hid ho)
    · exact Or.inl ho
  · simpa using hstatus

/-- What the sync handler relies on in an execution report: a symbol, an order id or a client
order id, one of the six statuses, and a cumulative quantity of at least zero when it is a
number. -/
def OrderSound (o : OrderUpdate) : Prop :=
  o.symbol ≠ "" ∧ (o.orderId ≠ "" ∨ o.clientOrderId ≠ "") ∧
    o.status ∈ OrderStatus.canonical ∧ (o.cumulativeQty.isNaN = false → 0 ≤ o.cumulativeQty)

/-- A number that `< 0` refuses is at least zero. -/
theorem nonneg_of_not_lt_zero {q : Float} (h : ¬ q < 0) (hq : q.isNaN = false) : 0 ≤ q :=
  Float.le_of_not_lt hq (by decide +kernel) h

theorem orderSound_of_checkOrder {o o' : OrderUpdate} {s : String}
    (hs : o.status = OrderStatus.parse s) (h : checkOrder o = .ok o') :
    o' = o ∧ OrderSound o := by
  obtain ⟨rfl, hsym, hid, hstatus, hqty⟩ := checkOrder_eq_ok h
  refine ⟨rfl, hsym, hid, ?_, nonneg_of_not_lt_zero hqty⟩
  rw [hs] at hstatus ⊢
  exact OrderStatus.parse_mem_canonical hstatus

theorem decodeSpot_eq_ok {bs : List UInt8} {o : OrderUpdate} (h : decodeSpot bs = .ok o) :
    OrderSound o := by
  unfold decodeSpot at h
  split at h
  · cases h
  · obtain ⟨rfl, hsound⟩ := orderSound_of_checkOrder rfl h
    exact hsound

theorem decodeFutures_eq_ok {bs : List UInt8} {o : OrderUpdate} (h : decodeFutures bs = .ok o) :
    OrderSound o := by
  unfold decodeFutures at h
  split at h
  · cases h
  · split at h
    · cases h
    · obtain ⟨rfl, hsound⟩ := orderSound_of_checkOrder rfl h
      exact hsound

theorem decodeSpotAccount_eq_ok {bs : List UInt8} {a : AccountSnapshot}
    (h : decodeSpotAccount bs = .ok a) : ∀ b ∈ a.balances, b.asset ≠ "" := by
  unfold decodeSpotAccount at h
  dsimp only at h
  split at h
  · cases h
  · cases h
    intro b hb
    obtain ⟨row, -, hrow⟩ := List.mem_filterMap.1 hb
    split at hrow
    · cases hrow
    · rename_i hasset
      cases hrow
      simpa using hasset

theorem decodeFuturesAccount_eq_ok {bs : List UInt8} {a : AccountSnapshot}
    (h : decodeFuturesAccount bs = .ok a) :
    ∀ b ∈ a.balances, b.asset ≠ "" ∧ (b.locked.isNaN = false → 0 ≤ b.locked) := by
  unfold decodeFuturesAccount at h
  dsimp only at h
  split at h
  · cases h
  · cases h
    intro b hb
    obtain ⟨row, -, hrow⟩ := List.mem_filterMap.1 hb
    split at hrow
    · cases hrow
    · rename_i hasset
      cases hrow
      refine ⟨by simpa using hasset, nonneg_of_not_lt_zero ?_⟩
      -- a negative remainder of the wallet balance is cut to zero
      dsimp only
      split
      · decide
      · assumption

/-- The last test of a tick: a symbol, and a price that `<= 0` refuses, so above zero when it is
a number. -/
theorem tick_eq_ok {symbol : String} {p : Float} {source : PriceSource} {t : Ticker}
    (h : (if (symbol == "" || decide (p ≤ 0)) = true then .error EventFault.tickerIncomplete
      else Except.ok (⟨String.toUpperSimple symbol, p, source⟩ : Ticker)) = .ok t) :
    t.symbol ≠ "" ∧ (t.price.isNaN = false → 0 < t.price) := by
  split at h
  · cases h
  · rename_i hok
    cases h
    simp only [Bool.or_eq_true, beq_iff_eq, decide_eq_true_eq, not_or] at hok
    exact ⟨String.toUpperSimple_ne_empty hok.1, fun hp => Float.lt_of_not_le hp (by decide +kernel) hok.2⟩

theorem decodeTicker_eq_ok {bs : List UInt8} {field : String} {source : PriceSource} {t : Ticker}
    (h : decodeTicker bs field source = .ok t) :
    t.symbol ≠ "" ∧ (t.price.isNaN = false → 0 < t.price) := by
  unfold decodeTicker at h
  split at h
  · cases h
  · dsimp only at h
    split at h
    · cases h
    · exact tick_eq_ok h

/-- What the consumers of an event rely on: an execution report is `OrderSound`, a tick names a
symbol and has a price above zero, and an account snapshot lists only named assets, with a locked
amount of at least zero when it comes from the futures stream. Each bound is on a number; of a
NaN nothing is said. -/
def Sound (ev : Event) : Prop :=
  match ev.payload with
  | .order o => OrderSound o
  | .account a => ∀ b ∈ a.balances, b.asset ≠ "" ∧
      (ev.type = "ACCOUNT_UPDATE" → b.locked.isNaN = false → 0 ≤ b.locked)
  | .ticker t => t.symbol ≠ "" ∧ (t.price.isNaN = false → 0 < t.price)
  | .listenKeyExpired => True

/-- A body accepted for a known type is sound, whatever time and stream the event is stamped
with. -/
theorem decodeBody_sound {type : String} {bs : List UInt8} {p : Payload}
    (h : decodeBody type bs = some (.ok p)) (time : Int) (stream : String) :
    Sound ⟨type, time, stream, p⟩ := by
  unfold decodeBody at h
  split at h
  · obtain ⟨o, ho, rfl⟩ := Except.exists_of_map_eq_ok (Option.some.inj h)
    exact decodeSpot_eq_ok ho
  · obtain ⟨o, ho, rfl⟩ := Except.exists_of_map_eq_ok (Option.some.inj h)
    exact decodeFutures_eq_ok ho
  · obtain ⟨a, ha, rfl⟩ := Except.exists_of_map_eq_ok (Option.some.inj h)
    intro b hb
    refine ⟨decodeSpotAccount_eq_ok ha b hb, fun htype => ?_⟩
    exact absurd (show "outboundAccountPosition" = "ACCOUNT_UPDATE" from htype) (by decide)
  · obtain ⟨a, ha, rfl⟩ := Except.exists_of_map_eq_ok (Option.some.inj h)
    intro b hb
    exact ⟨(decodeFuturesAccount_eq_ok ha b hb).1, fun _ => (decodeFuturesAccount_eq_ok ha b hb).2⟩
  · obtain ⟨t, ht, rfl⟩ := Except.exists_of_map_eq_ok (Option.some.inj h)
    exact decodeTicker_eq_ok ht
  · obtain ⟨t, ht, rfl⟩ := Except.exists_of_map_eq_ok (Option.some.inj h)
    exact decodeTicker_eq_ok ht
  · obtain ⟨t, ht, rfl⟩ := Except.exists_of_map_eq_ok (Option.some.inj h)
    exact decodeTicker_eq_ok ht
  · cases h
    trivial
  · cases h

end Event

/-! ### Frames -/

namespace Frame

/-- Every event of every frame is sound. -/
theorem decode_events_sound (frame : List UInt8) :
    ∀ ev ∈ (decode frame).events, ev.Sound := by
  intro ev hev
  obtain ⟨bytes, hbody⟩ := mem_decodeElement_events _ _ _ ev hev
  exact Event.decodeBody_sound hbody ev.eventTime ev.stream

/-- An execution report of a new order with half a unit filled. -/
def newOrderReport : String :=
  "\x7b\"e\":\"executionReport\",\"E\":1,\"s\":\"BTCUSDT\",\"i\":1,\"X\":\"NEW\",\"z\":\"0.5\"\x7d"

/-- The report decodes to an event, and it is sound. -/
theorem new_order_report_sound :
    ∃ ev ∈ (decode newOrderReport.toUTF8.toList).events, ev.Sound := by
  have hsome : (decode newOrderReport.toUTF8.toList).events.isEmpty = false := by
    decide +kernel
  obtain ⟨ev, hev⟩ := List.isEmpty_eq_false_iff_exists_mem.1 hsome
  exact ⟨ev, hev, decode_events_sound _ ev hev⟩

/-- An execution report whose cumulative quantity is the text `Inf`. -/
def infiniteQuantityReport : String :=
  "\x7b\"e\":\"executionReport\",\"E\":1,\"s\":\"BTCUSDT\",\"i\":1,\"X\":\"NEW\",\"z\":\"Inf\"\x7d"

/-- The checks compare with zero only: an infinite cumulative quantity passes them. -/
theorem decode_admits_infinite_quantity :
    ∃ ev ∈ (decode infiniteQuantityReport.toUTF8.toList).events,
      ∃ o, ev.payload = .order o ∧ o.cumulativeQty.isFinite = false := by
  have hany : (decode infiniteQuantityReport.toUTF8.toList).events.any (fun ev =>
      match ev.payload with
      | .order o => !o.cumulativeQty.isFinite
      | _ => false) = true := by
    decide +kernel
  obtain ⟨ev, hev, hinf⟩ := List.any_eq_true.1 hany
  refine ⟨ev, hev, ?_⟩
  split at hinf
  · rename_i o ho
    exact ⟨o, ho, by simpa using hinf⟩
  · cases hinf

end Frame

end TradeLedger
