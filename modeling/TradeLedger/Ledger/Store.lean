import TradeLedger.Trade.Basic
import TradeLedger.Fault
import TradeLedger.Text.Blank
import TradeLedger.Time.Civil
import TradeLedger.Text.Quote
/-!
# The ledger store

The ledger keeps one row per trade, and two audit tables of reconciliation runs and their
corrections. Rows are never deleted, and every write of a trade row bumps its version and
stamps it, except the back-fill of an order id. What a read gives back is not always what was
written: absorbed ids are kept as one comma-joined text; a float column does not keep the sign
of a zero, and a NaN would be kept as null, which no float column of a trade admits; times are
kept as text, so only years 0 to 9999 read back. Once the store is closed every access fails.

## Main definitions

* `Store`, `Row`: the rows.
* `Store.requireNumbers`: the refusal of a NaN in a float column.
* `Store.create`, `Store.updateFill`, `Store.applyMerge`: the writes.
-/

namespace TradeLedger

/-- The ids of an absorbed-ids text: split at commas, blanks trimmed, empty pieces dropped. -/
def splitIds (s : String) : List String :=
  if s.isEmpty then [] else
    ((s.toList.splitOn ',').map fun p => String.trimBlank (String.ofList p)).filter
      (fun p => !p.isEmpty)

/-- Put `a` in front of the first element it may precede. -/
def insertStable {α : Type} (le : α → α → Bool) (a : α) : List α → List α
  | [] => [a]
  | b :: l => if le a b then a :: b :: l else b :: insertStable le a l

/-- Sort by insertion, keeping elements that compare alike in the order they came. For an order
that is total and transitive this is the one stable sort; it recurses on the list, so a query
over given rows can be evaluated outright. -/
def stableSort {α : Type} (le : α → α → Bool) : List α → List α
  | [] => []
  | a :: l => insertStable le a (stableSort le l)

/-- A float as a float column keeps it: a zero loses its sign. NaN would be kept as null, which
no float column of a trade admits, so the writes refuse it first (`Store.requireNumbers`). -/
def storedFloat (x : Float) : Float := if x == 0 then 0 else x

/-- A trade row: the trade as a read gives it back, the absorbed-ids text as stored, and
whether the close time holds a value. -/
structure Row where
  trade : Trade
  mergedText : String
  closeFilled : Bool
  deriving Repr, Inhabited

/-- A row with a new absorbed-ids text. -/
def Row.withMerged (r : Row) (text : String) : Row :=
  { r with mergedText := text, trade := { r.trade with mergedTradeIds := splitIds text } }

/-- One finished reconciliation run. -/
structure RunRow where
  id : String
  startedAt : Instant
  finishedAt : Instant
  lookbackSeconds : Int
  dryRun : Bool
  examined : Nat
  matched : Nat
  updated : Nat
  unmatched : Nat
  failed : Nat
  deriving Repr, Inhabited

structure CorrectionRow where
  runId : String
  tradeId : String
  closeId : String
  oldPnl : Float
  newPnl : Float
  relaxed : Bool
  createdAt : Instant
  deriving Repr, Inhabited

/-- The ledger store. Rows are kept in insertion order. -/
structure Store where
  rows : List Row := []
  runs : List RunRow := []
  corrections : List CorrectionRow := []
  closed : Bool := false
  deriving Repr, Inhabited

namespace Store

/-- The failure of an access to a closed store. -/
def closedText : String := "sql: database is closed"

/-- Fail with `context` when the store is closed. -/
def guard (s : Store) (context : String) : Except Fault Unit :=
  if s.closed then .error (Fault.plain (context ++ closedText)) else pure ()

/-- The failure when a trade is missing. -/
def notFound : Fault := { kind := .notFound, text := "record not found" }

/-- The failure of a query that needs a trader. -/
def traderRequired : Fault :=
  { kind := .traderIdRequired, text := "trader_id is required for data isolation" }

/-- The failure of a versioned write that lost to another writer. -/
def staleWrite : Fault := { kind := .staleWrite, text := "trade row changed since it was read" }

/-- The failure of a write to a missing row. -/
def missingRow (id : String) : Fault := notFound.wrap ("trade " ++ id ++ ": ")

/-- Refuse a write that would store NaN, kept as null, in one of the given float columns of a
trade, all NOT NULL; the first such column in table order is named. -/
def requireNumbers (context : String) (columns : List (String × Float)) : Except Fault Unit :=
  match columns.find? (·.2.isNaN) with
  | some (c, _) => .error (Fault.plain (context ++
      "constraint failed: NOT NULL constraint failed: trades." ++ c ++ " (1299)"))
  | none => pure ()

/-- The row of an id. -/
def find? (s : Store) (id : String) : Option Row := s.rows.find? (·.trade.id == id)

/-- Rewrite the row of an id; whether there was one. -/
def modify (s : Store) (id : String) (f : Row → Row) : Store × Bool :=
  if (s.find? id).isSome then
    ({ s with rows := s.rows.map fun r => if r.trade.id == id then f r else r }, true)
  else (s, false)

/-- A written row's new version and time. -/
def Row.touch (now : Instant) (r : Row) : Row :=
  { r with trade := { r.trade with version := r.trade.version + 1, updatedAt := now } }

/-- Rewrite the row of an id as a write that needs the row: bump its version and time. -/
def write (s : Store) (id : String) (now : Instant) (f : Trade → Trade) : Except Fault Store :=
  match s.modify id (fun r => Row.touch now { r with trade := f r.trade }) with
  | (s, true) => pure s
  | (_, false) => .error (missingRow id)

/-- Rows with their insertion positions. -/
def numbered (s : Store) : List (Nat × Row) := (List.range s.rows.length).zip s.rows

/-- Newest rows first by creation, the later insert first among equal times. -/
def newestFirst (rows : List (Nat × Row)) : List Row :=
  (stableSort (fun a b =>
    let ta := Instant.storedText a.2.trade.createdAt
    let tb := Instant.storedText b.2.trade.createdAt
    decide (tb < ta) || (ta == tb && decide (b.1 ≤ a.1))) rows).map (·.2)

/-- The failure of reading a time column whose stored text is not a time. -/
def unreadableTime (index : Nat) (column : String) : Fault :=
  Fault.plain ("sql: Scan error on column index " ++ toString index ++ ", name " ++
    quoteText column ++ ": unsupported Scan, storing driver.Value type string into type *time.Time")

/-- The trade a row reads back as, or the failure at its first time column (in the order a read
lists them) whose year does not have four digits. -/
def Row.scan (r : Row) : Except Fault Trade :=
  let t := r.trade
  let times : List (Nat × String × Option Instant) :=
    [(23, "reconciled_at", if t.reconciledAt.isSome then some t.reconciledAt else none),
      (24, "created_at", some t.createdAt), (25, "updated_at", some t.updatedAt),
      (26, "closed_at", if r.closeFilled then some t.closedAt else none)]
  match times.find? fun (_, _, v) => match v with
      | some i => !Instant.hasFourDigitYear i
      | none => false with
  | some (index, column, _) => .error (unreadableTime index column)
  | none => .ok t

/-- The trades of rows read in order; the first row that does not read fails the read. -/
def scanAll (rows : List Row) : Except Fault (List Trade) :=
  rows.mapM fun r => (Row.scan r).mapError (·.wrap "scan trade: ")

/-- The row a new trade is stored as: the columns an insert does not write take their
defaults. -/
def Row.ofNew (t : Trade) : Row :=
  let text := String.intercalate "," t.mergedTradeIds
  let u := { t with
    size := storedFloat t.size, entryPrice := storedFloat t.entryPrice,
    exitPrice := storedFloat t.exitPrice, realizedPnl := storedFloat t.realizedPnl,
    mergedTradeIds := splitIds text,
    entryFilledQty := 0, entryOrderStatus := "", exitFilledQty := 0, exitOrderStatus := "",
    lastEventAt := 0, version := 0, reconciledCloseId := "", reconciledAt := none }
  { trade := u, mergedText := text, closeFilled := t.closedAt.isSome }

/-- A new trade with its defaults: an empty id takes `freshId`, an empty status is pending,
an unset creation time is now, and the update time is now. -/
def withDefaults (now : Instant) (freshId : String) (t : Trade) : Trade :=
  { t with
    id := if t.id.isEmpty then freshId else t.id
    status := if t.status == .other "" then .pending else t.status
    createdAt := if t.createdAt.isNone then now else t.createdAt
    updatedAt := now }

/-- Insert a new trade; a trader is required. The answer is the trade as given with its
defaults filled in. -/
def create (s : Store) (now : Instant) (freshId : String) (t : Trade) : Except Fault (Trade × Store) := do
  if t.traderId.isEmpty then throw traderRequired
  let t := withDefaults now freshId t
  s.guard "insert trade: "
  requireNumbers "insert trade: " [("size", t.size), ("entry_price", t.entryPrice),
    ("exit_price", t.exitPrice), ("realized_pnl", t.realizedPnl)]
  if (s.find? t.id).isSome then
    throw (Fault.plain "insert trade: constraint failed: UNIQUE constraint failed: trades.id (1555)")
  pure (t, { s with rows := s.rows ++ [Row.ofNew t] })

/-- The trade of an id. -/
def get (s : Store) (id : String) : Except Fault Trade := do
  s.guard ("get trade " ++ id ++ ": ")
  match s.find? id with
  | some r => (Row.scan r).mapError (·.wrap ("get trade " ++ id ++ ": "))
  | none => throw notFound

/-- The newest trade whose entry, client or close order id is `orderId`. -/
def findByOrder (s : Store) (orderId : String) : Except Fault Trade := do
  if orderId.isEmpty then throw notFound
  s.guard ("find trade by order " ++ orderId ++ ": ")
  let hits := s.numbered.filter fun (_, r) =>
    r.trade.exchangeOrderId == orderId || r.trade.clientOrderId == orderId ||
      r.trade.closeOrderId == orderId
  match newestFirst hits with
  | r :: _ => (Row.scan r).mapError (·.wrap ("find trade by order " ++ orderId ++ ": "))
  | [] => throw notFound

/-- The newest trades created at or after `since` that carry a raw payload, at most `limit`
of them (200 when `limit` is not positive). -/
def recentRaw (s : Store) (since : Instant) (limit : Int) : Except Fault (List Trade) := do
  let limit := if limit ≤ 0 then 200 else limit
  s.guard "query recent raw responses: "
  let hits := s.numbered.filter fun (_, r) =>
    decide (Instant.storedText since ≤ Instant.storedText r.trade.createdAt) &&
      !r.trade.rawResponse.isEmpty
  scanAll ((newestFirst hits).take limit.toNat)

/-- Record an order id of a leg that was not known when the trade was created. An id already
on record is kept; a missing row is not an error. -/
def backfill (s : Store) (now : Instant) (id : String) (leg : Leg) (orderId : String) :
    Except Fault Store := do
  let column := match leg with
    | .entry => "exchange_order_id"
    | .exit => "close_order_id"
  s.guard ("backfill " ++ column ++ " on " ++ id ++ ": ")
  let fill (r : Row) : Row :=
    let t := r.trade
    match leg with
    | .entry => if t.exchangeOrderId.isEmpty then
        { r with trade := { t with exchangeOrderId := orderId, updatedAt := now } } else r
    | .exit => if t.closeOrderId.isEmpty then
        { r with trade := { t with closeOrderId := orderId, updatedAt := now } } else r
  pure (s.modify id fill).1

/-- A row after a fill was written from `t`. -/
def Row.fill (now : Instant) (t : Trade) (r : Row) : Row :=
  let u := { r.trade with
    size := storedFloat t.size, entryPrice := storedFloat t.entryPrice,
    exitPrice := storedFloat t.exitPrice, realizedPnl := storedFloat t.realizedPnl,
    status := t.status, reason := t.reason,
    entryFilledQty := storedFloat t.entryFilledQty, entryOrderStatus := t.entryOrderStatus,
    exitFilledQty := storedFloat t.exitFilledQty, exitOrderStatus := t.exitOrderStatus,
    lastEventAt := t.lastEventAt, closedAt := t.closedAt }
  Row.touch now { r with trade := u, closeFilled := t.closedAt.isSome }

/-- Write the columns a fill changes, if the row still has the trade's version; the trade with
its new version and time. -/
def updateFill (s : Store) (now : Instant) (t : Trade) : Except Fault (Trade × Store) := do
  s.guard ("update trade fill " ++ t.id ++ ": ")
  match s.find? t.id with
  | some r =>
    if r.trade.version != t.version then throw staleWrite
    requireNumbers ("update trade fill " ++ t.id ++ ": ") [("size", t.size),
      ("entry_price", t.entryPrice), ("exit_price", t.exitPrice), ("realized_pnl", t.realizedPnl),
      ("entry_filled_qty", t.entryFilledQty), ("exit_filled_qty", t.exitFilledQty)]
    pure ({ t with version := t.version + 1, updatedAt := now }, (s.modify t.id (Row.fill now t)).1)
  | none => throw staleWrite

/-- Move a trade to a status with a reason. -/
def markStatus (s : Store) (now : Instant) (id : String) (status : TradeStatus) (reason : String) :
    Except Fault Store := do
  s.guard ("mark trade " ++ id ++ " " ++ status.text ++ ": ")
  s.write id now fun t => { t with status := status, reason := reason }

/-- Whether `needle` occurs in `hay` as a contiguous run. -/
def occursIn (needle : List Char) : List Char → Bool
  | [] => needle.isEmpty
  | c :: rest => needle.isPrefixOf (c :: rest) || occursIn needle rest

/-- The absorbed-ids text after recording `id`: unchanged when `,id,` occurs in the text
between two added commas. -/
def mergedTextWith (text id : String) : String :=
  if text.isEmpty then id
  else if occursIn ("," ++ id ++ ",").toList ("," ++ text ++ ",").toList then text
  else text ++ "," ++ id

/-- A primary after absorbing a trade: its new size, entry price and absorbed ids. -/
def Row.absorb (now : Instant) (size entry : Float) (absorbed : String) (r : Row) : Row :=
  let t := { r.trade with size := storedFloat size, entryPrice := storedFloat entry }
  Row.touch now ({ r with trade := t }.withMerged (mergedTextWith r.mergedText absorbed))

/-- Rewrite a primary's size and entry price and record `absorbed` as merged into it. -/
def applyMerge (s : Store) (now : Instant) (primary : String) (size entry : Float) (absorbed : String) :
    Except Fault Store := do
  s.guard ("apply merge on " ++ primary ++ ": ")
  match s.modify primary (Row.absorb now size entry absorbed) with
  | (s, true) =>
    requireNumbers ("apply merge on " ++ primary ++ ": ") [("size", size), ("entry_price", entry)]
    pure s
  | (_, false) => throw (missingRow primary)

/-- Mark a trade as folded into a primary. -/
def markMerged (s : Store) (now : Instant) (id primary reason : String) : Except Fault Store := do
  s.guard ("mark trade " ++ id ++ " merged: ")
  s.write id now fun t => { t with status := .merged, mergedIntoTradeId := primary, reason := reason }

/-- A row closed at an exit price and instant; the close time holds a value even when it is
the zero instant. -/
def Row.close (now : Instant) (exit : Float) (stamp : Instant) (reason : String) (r : Row) : Row :=
  let t := { r.trade with
    status := .closed, exitPrice := storedFloat exit, closedAt := stamp, reason := reason }
  Row.touch now { r with trade := t, closeFilled := true }

/-- Close a trade at an exit price and instant. -/
def closeTrade (s : Store) (now : Instant) (id : String) (exit : Float) (stamp : Instant)
    (reason : String) : Except Fault Store := do
  s.guard ("close trade " ++ id ++ ": ")
  match s.modify id (Row.close now exit stamp reason) with
  | (s, true) =>
    requireNumbers ("close trade " ++ id ++ ": ") [("exit_price", exit)]
    pure s
  | (_, false) => throw (missingRow id)

/-- Store a realized profit corrected from the venue's history. -/
def updateReconciled (s : Store) (now : Instant) (id : String) (pnl : Float) (closeId : String)
    (stamp : Instant) : Except Fault Store := do
  s.guard ("update reconciled pnl " ++ id ++ ": ")
  let s ← s.write id now fun t =>
    { t with realizedPnl := storedFloat pnl, reconciledCloseId := closeId, reconciledAt := stamp }
  requireNumbers ("update reconciled pnl " ++ id ++ ": ") [("realized_pnl", pnl)]
  pure s

/-- A trader's live trades, oldest first, ties by id. -/
def live (s : Store) (trader : String) : Except Fault (List Trade) := do
  if trader.isEmpty then throw traderRequired
  s.guard "query live trades: "
  let rows := s.rows.filter fun r => r.trade.traderId == trader && r.trade.status.live
  scanAll (stableSort (fun a b =>
    let ta := Instant.storedText a.trade.createdAt
    let tb := Instant.storedText b.trade.createdAt
    decide (ta < tb) || (ta == tb && decide (a.trade.id ≤ b.trade.id))) rows)

/-- A trader's newest trades, at most `limit` (100 when `limit` is not positive). -/
def byTrader (s : Store) (trader : String) (limit : Int) : Except Fault (List Trade) := do
  if trader.isEmpty then throw traderRequired
  let limit := if limit ≤ 0 then 100 else limit
  s.guard "query trades: "
  scanAll ((newestFirst (s.numbered.filter fun (_, r) => r.trade.traderId == trader)).take limit.toNat)

/-- Remove repeated texts of a sorted list. -/
def dedupSorted : List String → List String
  | a :: b :: rest => if a == b then dedupSorted (b :: rest) else a :: dedupSorted (b :: rest)
  | xs => xs

/-- Every trader with a live trade, in order. -/
def liveTraders (s : Store) : Except Fault (List String) := do
  s.guard "query live traders: "
  let ids := ((s.rows.map (·.trade)).filter (·.status.live)).map (·.traderId)
  pure (dedupSorted (stableSort (fun a b => decide (a ≤ b)) ids))

/-- Closed trades whose close time holds a value at or after `since`, of one trader or of all
when `trader` is empty; by close time, ties by id. -/
def closedSince (s : Store) (trader : String) (since : Instant) : Except Fault (List Trade) := do
  s.guard "query closed trades: "
  let keep (r : Row) : Bool :=
    r.trade.status == .closed && r.closeFilled &&
      decide (Instant.storedText since ≤ Instant.storedText r.trade.closedAt) &&
      (trader.isEmpty || r.trade.traderId == trader)
  scanAll (stableSort (fun a b =>
    let ta := Instant.storedText a.trade.closedAt
    let tb := Instant.storedText b.trade.closedAt
    decide (ta < tb) || (ta == tb && decide (a.trade.id ≤ b.trade.id))) (s.rows.filter keep))

/-- The newest runs, at most `limit` (20 when `limit` is not positive); among runs that
started together, the later recorded first. -/
def recentRuns (s : Store) (limit : Int) : Except Fault (List RunRow) := do
  let limit := if limit ≤ 0 then 20 else limit
  s.guard "query reconciliation runs: "
  let numbered := (List.range s.runs.length).zip s.runs
  let sorted := stableSort (fun a b =>
    decide (b.2.startedAt.toMs < a.2.startedAt.toMs) ||
      (a.2.startedAt.toMs == b.2.startedAt.toMs && decide (b.1 ≤ a.1))) numbered
  pure ((sorted.map (·.2)).take limit.toNat)

end Store

end TradeLedger
