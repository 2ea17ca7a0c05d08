import TradeLedger.Proofs.Position.Fills
import TradeLedger.Proofs.Ledger.MergedIds
/-!
# Writes that race on a trade row

An execution report and a merge each read a trade, decide from what they read, and write the row
back, while other calls do the same. Here the calls run as atomic steps in any interleaving: a
read (with the decision that follows it, which touches nothing shared) and a write. A report
writes through `Store.updateFill`, which refuses a row whose version moved since the read; the
report then reads again, and after its second lost race it answers stale having written nothing.
A merge writes through `Store.applyMerge`, with a size computed from its read and no version.

Reports alone are linearizable: each call acts as a whole at one instant, its read when it wrote
nothing and its write when it wrote, so the store is what the finished calls make of the first
one, run one at a time in that order. The argument is one invariant: a call holding a trade
still finds it current, or finds its row at a later version, where its write can only lose. A
merge writes at a later version too, so one that read before a fill writes the fill away.

## Main definitions

* `WriteRace.Job`, `WriteRace.Job.atomic`: the calls, and a call run alone.
* `WriteRace.Sys`, `WriteRace.Sys.step`, `WriteRace.Sys.run`: the interleaving model.
* `WriteRace.Inv`: the invariant every step of reports keeps.

## Theorems

* `WriteRace.Current.modify`: a write of a row keeps every read current or moved past.
* `reports_linearizable`: any interleaving of reports ends as their one-at-a-time run.
* `merge_overwrites_fill`: a merge that read before a fill ends where no serial order ends.
-/

namespace TradeLedger

namespace WriteRace

/-- A call that reads a trade, decides, and writes it back: an execution report on a leg of the
trade `id`, or a merge of a new trade into the primary `id`. -/
inductive Job where
  | fill (id : String) (o : OrderUpdate) (leg : Leg) (eventTime : Int)
  | merge (id : String) (nt : NewTrade)

namespace Job

def id : Job → String
  | .fill id .. => id
  | .merge id _ => id

/-- Whether the call's write checks the version it read. -/
def guarded : Job → Bool
  | .fill .. => true
  | .merge .. => false

/-- Whether the call writes nothing after reading `t`: a report the fold skips. -/
def skips (t : Trade) : Job → Bool
  | .fill _ o leg eventTime => !(decideFill t leg o eventTime).apply
  | .merge .. => false

/-- The write the call makes at `now` from the trade `t` it read. -/
def write (now : Instant) (t : Trade) (s : Store) : Job → Except Fault Store
  | .fill _ o leg eventTime =>
    (s.updateFill now (applyFill t leg o (decideFill t leg o eventTime) eventTime now.toMs).1).map
      (·.2)
  | .merge _ nt => do
    let (size, entry) ← (weightedEntry t.size t.entryPrice nt.size nt.entryPrice).mapError
      Fault.plain
    s.applyMerge now t.id size entry nt.tradeId

/-- The call run alone: read, decide and write at once; a refusal leaves the store. -/
def atomic (now : Instant) (s : Store) (j : Job) : Store :=
  match s.get j.id with
  | .ok t => if j.skips t then s else (j.write now t s).toOption.getD s
  | .error _ => s

end Job

/-- Where a call stands: to read, with the write attempts it has left; holding the trade it
read; finished; or out of attempts, every write lost to a newer version. -/
inductive Stage where
  | reading (tries : Nat)
  | holding (tries : Nat) (t : Trade)
  | finished
  | lost

/-- The store with the calls running on it, and the calls that finished, in order. -/
structure Sys where
  store : Store
  now : Instant
  jobs : List Job
  stage : Nat → Stage
  log : List Nat

/-- One atomic step of a call. -/
inductive Act where
  | read (i : Nat)
  | write (i : Nat)

namespace Sys

/-- The calls `jobs` on `s`, each with two write attempts, as a report has. -/
def start (s : Store) (now : Instant) (jobs : List Job) : Sys :=
  ⟨s, now, jobs, fun _ => .reading 2, []⟩

def move (s : Sys) (i : Nat) (st : Stage) : Sys :=
  { s with stage := Function.update s.stage i st }

def finish (s : Sys) (i : Nat) : Sys :=
  { s.move i .finished with log := s.log ++ [i] }

/-- The step of an action, when it is enabled. -/
def step (s : Sys) : Act → Option Sys
  | .read i =>
    match s.jobs[i]?, s.stage i with
    | some j, .reading (n + 1) =>
      some (match s.store.get j.id with
        | .ok t => if j.skips t then s.finish i else s.move i (.holding n t)
        | .error _ => s.finish i)
    | _, _ => none
  | .write i =>
    match s.jobs[i]?, s.stage i with
    | some j, .holding n t =>
      some (match j.write s.now t s.store with
        | .ok st => { s with store := st }.finish i
        | .error f =>
          if f.kind == .staleWrite then s.move i (if n = 0 then .lost else .reading n)
          else s.finish i)
    | _, _ => none

/-- Run the steps of an interleaving in turn; `none` when one of them is not enabled. -/
def run (s : Sys) : List Act → Option Sys
  | [] => some s
  | a :: rest => (s.step a).bind (·.run rest)

end Sys

/-! ## Reads that stay current -/

/-- A read trade the store still gives back, or one whose row was written since, to a later
version. -/
def Current (s : Store) (t : Trade) : Prop :=
  s.get t.id = .ok t ∨ ∃ r, s.find? t.id = some r ∧ t.version < r.trade.version

theorem find?_modify_of_ne {s : Store} {p q : String} {f : Row → Row}
    (hf : ∀ r, (f r).trade.id = r.trade.id) (hq : q ≠ p) :
    (s.modify p f).1.find? q = s.find? q := by
  unfold Store.modify
  split
  · simp only [Store.find?, List.find?_map]
    have hpred : ((fun r : Row => r.trade.id == q) ∘ fun r => if r.trade.id == p then f r else r) =
        fun r => r.trade.id == q := by
      funext r
      by_cases h : r.trade.id = p <;> simp [h, hf]
    rw [hpred]
    rcases hfind : s.rows.find? (fun r => r.trade.id == q) with _ | r
    · simp [hfind]
    · have hid : r.trade.id = q := by simpa using List.find?_some hfind
      simp [hfind, hid, hq]
  · rfl

/-- A write of the row of `p` that keeps ids and moves the version on keeps every read current,
or moved past. -/
theorem Current.modify {s : Store} {t : Trade} (h : Current s t) {p : String} {f : Row → Row}
    (hid : ∀ r, (f r).trade.id = r.trade.id)
    (hver : ∀ r, (f r).trade.version = r.trade.version + 1) : Current (s.modify p f).1 t := by
  by_cases hp : t.id = p
  · -- the row read was written: its version is now past the read's
    subst hp
    have hmoved : ∀ r, s.find? t.id = some r → t.version ≤ r.trade.version →
        Current (s.modify t.id f).1 t := fun r hr hle =>
      .inr ⟨f r, by rw [Store.find?_modify hid, hr]; rfl, by rw [hver]; omega⟩
    rcases h with hget | ⟨r, hr, hlt⟩
    · obtain ⟨r, hr, rfl⟩ := Store.get_ok hget
      exact hmoved r hr le_rfl
    · exact hmoved r hr hlt.le
  · -- another row was written: the read finds what it found
    have hfind := find?_modify_of_ne (s := s) hid hp
    have hget : (s.modify p f).1.get t.id = s.get t.id := by
      simp only [Store.get, Store.guard, Store.modify_closed, hfind]
    rcases h with h | ⟨r, hr, hlt⟩
    · exact .inl (hget.trans h)
    · exact .inr ⟨r, hfind.trans hr, hlt⟩

/-- A guarded write from a trade whose row moved past it never lands: it is refused as stale, or
the store is closed. -/
theorem write_of_moved {j : Job} (hg : j.guarded = true) {s : Store} {t : Trade} {r : Row}
    (hr : s.find? t.id = some r) (hlt : t.version < r.trade.version) (now : Instant) :
    ∃ f, j.write now t s = .error f ∧ (f.kind = .staleWrite ∨ s.closed = true) := by
  cases j with
  | merge => cases hg
  | fill id o leg eventTime =>
    obtain ⟨hid, hver⟩ := applyFill_id_version leg o (decideFill t leg o eventTime) eventTime
      now.toMs t
    cases hc : s.closed
    · refine ⟨Store.staleWrite, ?_, .inl rfl⟩
      have hne : (r.trade.version != t.version) = true := by simpa using hlt.ne'
      simp [Job.write, Store.updateFill, Store.guard, hc, hid, hver, hr, hne, bind, Except.bind,
        pure, Except.pure, throw, throwThe, MonadExceptOf.throw, Except.map]
    · exact ⟨_, by simp only [Job.write, Store.updateFill, Store.guard, hc, if_true]; rfl, .inr rfl⟩

/-- A call run alone on a closed store reads nothing and writes nothing. -/
theorem atomic_of_closed {s : Store} (hc : s.closed = true) (now : Instant) (j : Job) :
    j.atomic now s = s := by
  simp [Job.atomic, Store.get, Store.guard, hc, bind, Except.bind]

/-! ## The invariant -/

/-- The invariant of an interleaving of calls `jobs` at `now` from the store `s₀`: the store is
what the finished calls make of `s₀` run one at a time, in the order they finished, each once;
and a call holding a trade read it from its own row, chose to write, and finds it current. -/
structure Inv (s₀ : Store) (now : Instant) (jobs : List Job) (s : Sys) : Prop where
  jobs_eq : s.jobs = jobs
  now_eq : s.now = now
  serial : s.store = (s.log.filterMap (jobs[·]?)).foldl (Job.atomic now) s₀
  logged : ∀ i, i ∈ s.log ↔ s.stage i = .finished
  nodup : s.log.Nodup
  holding : ∀ i j n t, jobs[i]? = some j → s.stage i = .holding n t →
    t.id = j.id ∧ j.skips t = false ∧ Current s.store t

variable {s₀ : Store} {now : Instant} {jobs : List Job} {s : Sys}

theorem Inv.start : Inv s₀ now jobs (Sys.start s₀ now jobs) where
  jobs_eq := rfl
  now_eq := rfl
  serial := rfl
  logged i := by simp [Sys.start]
  nodup := List.nodup_nil
  holding _ _ _ _ _ h := by cases h

/-- A call moved on to a stage other than finished keeps the invariant, when a stage holding a
trade holds one that keeps it. -/
theorem Inv.move (h : Inv s₀ now jobs s) {i : Nat} (hi : s.stage i ≠ .finished) {st : Stage}
    (hst : st ≠ .finished) (hhold : ∀ j n t, jobs[i]? = some j → st = .holding n t →
      t.id = j.id ∧ j.skips t = false ∧ Current s.store t) : Inv s₀ now jobs (s.move i st) where
  jobs_eq := h.jobs_eq
  now_eq := h.now_eq
  serial := h.serial
  logged k := by
    by_cases hk : k = i
    · subst hk
      simp only [Sys.move, Function.update_self]
      exact ⟨fun hm => absurd ((h.logged k).1 hm) hi, fun he => absurd he hst⟩
    · simpa [Sys.move, Function.update_of_ne hk] using h.logged k
  nodup := h.nodup
  holding k j n t hj hk := by
    by_cases hki : k = i
    · subst hki
      exact hhold j n t hj (by simpa [Sys.move] using hk)
    · exact h.holding k j n t hj (by simpa [Sys.move, Function.update_of_ne hki] using hk)

/-- A call finishing at an instant where the store becomes what the call alone makes of it keeps
the invariant, when that change keeps every read current. -/
theorem Inv.finish (h : Inv s₀ now jobs s) {i : Nat} {j : Job} (hj : jobs[i]? = some j)
    (hi : s.stage i ≠ .finished) {st : Store} (hst : st = j.atomic now s.store)
    (hcur : ∀ t, Current s.store t → Current st t) :
    Inv s₀ now jobs ({ s with store := st }.finish i) where
  jobs_eq := h.jobs_eq
  now_eq := h.now_eq
  serial := by
    simp only [Sys.finish, Sys.move, List.filterMap_append, List.filterMap_cons, hj,
      List.filterMap_nil, List.foldl_append, List.foldl_cons, List.foldl_nil, hst, ← h.serial]
  logged k := by
    by_cases hk : k = i
    · subst hk
      simp [Sys.finish, Sys.move]
    · simpa [Sys.finish, Sys.move, Function.update_of_ne hk, hk] using h.logged k
  nodup := List.nodup_append.2 ⟨h.nodup, List.nodup_singleton i, fun a ha b hb => by
    rw [List.mem_singleton.1 hb]
    rintro rfl
    exact hi ((h.logged a).1 ha)⟩
  holding k j' n t hj' hk := by
    by_cases hki : k = i
    · subst hki
      simp [Sys.finish, Sys.move] at hk
    · simp only [Sys.finish, Sys.move, Function.update_of_ne hki] at hk
      obtain ⟨hid, hskip, hc⟩ := h.holding k j' n t hj' hk
      exact ⟨hid, hskip, hcur t hc⟩

/-- A successful write rewrites one row, keeping ids and moving its version on, so it keeps every
read current or moved past. -/
theorem Job.current_of_write {j : Job} {t : Trade} {st : Store} (hw : j.write now t s.store = .ok st)
    {u : Trade} (hu : Current s.store u) : Current st u := by
  cases j with
  | fill id o leg eventTime =>
    simp only [Job.write] at hw
    rcases hfill : s.store.updateFill now
      (applyFill t leg o (decideFill t leg o eventTime) eventTime now.toMs).1 with _ | ⟨t', st'⟩
    · simp [hfill, Except.map] at hw
    · simp only [hfill, Except.map, Except.ok.injEq] at hw
      rw [← hw, (Store.updateFill_ok hfill).2.1]
      exact hu.modify (fun _ => rfl) fun _ => rfl
  | merge id nt =>
    simp only [Job.write] at hw
    rcases hwe : weightedEntry t.size t.entryPrice nt.size nt.entryPrice with _ | ⟨size, entry⟩
    · simp [hwe, Except.mapError, bind, Except.bind] at hw
    · simp only [hwe, Except.mapError, bind, Except.bind] at hw
      rw [(Store.applyMerge_ok hw).1]
      exact hu.modify (fun _ => rfl) fun _ => rfl

/-- A guarded call holding a current read writes what it would write alone, unless its write is
refused as stale or the store is closed. -/
theorem Job.atomic_of_current {j : Job} (hg : j.guarded = true) {st : Store} {t : Trade}
    (hid : t.id = j.id) (hskip : j.skips t = false) (hcur : Current st t) (now : Instant) :
    j.atomic now st = (j.write now t st).toOption.getD st ∨
      ∃ f, j.write now t st = .error f ∧ (f.kind = .staleWrite ∨ st.closed = true) := by
  rcases hcur with hget | ⟨r, hr, hlt⟩
  · -- the row is as read: alone, the call reads it back and makes the same write
    exact .inl (by simp only [Job.atomic, ← hid, hget, hskip, Bool.false_eq_true, if_false])
  · exact .inr (write_of_moved hg hr hlt now)

/-- A read either finishes the call, as the call alone would when it writes nothing, or leaves it
holding a trade read from its own row. -/
theorem Inv.step_read (h : Inv s₀ now jobs s) {i : Nat} {s' : Sys}
    (hs : s.step (.read i) = some s') : Inv s₀ now jobs s' := by
  simp only [Sys.step] at hs
  split at hs
  · rename_i j n hj hst
    rw [h.jobs_eq] at hj
    have hi : s.stage i ≠ .finished := by rw [hst]; exact nofun
    cases hs
    rcases hget : s.store.get j.id with f | t <;> dsimp only
    · -- a refused read finishes without writing, as the call alone would
      exact h.finish hj hi (by simp [Job.atomic, hget]) fun _ hc => hc
    · split
      · rename_i hskip
        exact h.finish hj hi (by simp [Job.atomic, hget, hskip]) fun _ hc => hc
      · rename_i hskip
        obtain ⟨r, hr, rfl⟩ := Store.get_ok hget
        have hrid := (Store.find?_some hr).2
        refine h.move hi nofun fun j' n' t' hj' heq => ?_
        obtain rfl : j = j' := Option.some.inj (hj.symm.trans hj')
        cases heq
        exact ⟨hrid, by simpa using hskip, .inl (by rw [hrid]; exact hget)⟩
  · cases hs

/-- A guarded write lands only where the call alone would write the same; a lost race sends the
call back to read, and any other refusal finishes it having written nothing. -/
theorem Inv.step_write (hg : ∀ j ∈ jobs, j.guarded = true) (h : Inv s₀ now jobs s) {i : Nat}
    {s' : Sys} (hs : s.step (.write i) = some s') : Inv s₀ now jobs s' := by
  simp only [Sys.step] at hs
  split at hs
  · rename_i j n t hj hst
    rw [h.jobs_eq] at hj
    have hi : s.stage i ≠ .finished := by rw [hst]; exact nofun
    obtain ⟨hid, hskip, hcur⟩ := h.holding i j n t hj hst
    have hatomic := j.atomic_of_current (hg j (List.mem_of_getElem? hj)) hid hskip hcur now
    cases hs
    rcases hw : j.write s.now t s.store with f | st <;> dsimp only <;> rw [h.now_eq] at hw <;>
      rw [hw] at hatomic
    · split
      · -- a lost race writes nothing, and the call reads again or gives up
        refine h.move hi (by split <;> exact nofun) fun _ _ _ _ heq => ?_
        split at heq <;> cases heq
      · rename_i hstale
        refine h.finish hj hi ?_ fun _ hc => hc
        rcases hatomic with heq | ⟨f', hf', hk | hc⟩
        · simp [heq, Except.toOption]
        · cases hf'
          simp [hk] at hstale
        · exact (atomic_of_closed hc now j).symm
    · refine h.finish hj hi ?_ fun _ hc => Job.current_of_write hw hc
      rcases hatomic with heq | ⟨f', hf', -⟩
      · simp [heq, Except.toOption]
      · cases hf'
  · cases hs

/-- Each step of guarded calls keeps the invariant. -/
theorem Inv.step (hg : ∀ j ∈ jobs, j.guarded = true) (h : Inv s₀ now jobs s) {a : Act} {s' : Sys}
    (hs : s.step a = some s') : Inv s₀ now jobs s' := by
  cases a with
  | read i => exact h.step_read hs
  | write i => exact h.step_write hg hs

/-- Every interleaving of guarded calls keeps the invariant. -/
theorem Inv.run (hg : ∀ j ∈ jobs, j.guarded = true) {acts : List Act} :
    ∀ {s s' : Sys}, Inv s₀ now jobs s → s.run acts = some s' → Inv s₀ now jobs s' := by
  induction acts with
  | nil =>
    intro s s' h hrun
    cases hrun
    exact h
  | cons a acts ih =>
    intro s s' h hrun
    obtain ⟨s₁, hs, hrest⟩ := Option.bind_eq_some_iff.1 hrun
    exact ih (h.step hg hs) hrest

/-- A long ETH trade whose entry order has filled one unit at a hundred. -/
def partTrade : Trade :=
  { id := "p", traderId := "T", symbol := "ETH", side := .long, size := 1, entryPrice := 100,
    status := .opened, exchangeOrderId := "o1", entryFilledQty := 1,
    entryOrderStatus := "PARTIALLY_FILLED", lastEventAt := 100 }

def partFilled : Store := { rows := [⟨partTrade, "", false⟩] }

/-- The entry order's report at `eventTime`: `qty` filled at an average of 110. -/
def entryReport (status : OrderStatus) (qty : Float) (eventTime : Int) : Job :=
  .fill "p"
    { symbol := "ETH", orderId := "o1", side := .buy, status := status, cumulativeQty := qty,
      avgPrice := 110 }
    .entry eventTime

/-- A new long trade of one unit at a hundred merged into the primary. -/
def mergeOne : Job :=
  .merge "p"
    { tradeId := "n", traderId := "T", symbol := "ETH", side := .long, size := 1,
      entryPrice := 100 }

def primarySize (s : Store) : Option Float := (s.find? "p").map (·.trade.size)

end WriteRace

open WriteRace in
/-- Any interleaving of execution reports on the ledger ends as the reports that finished, run
one at a time in the order they finished, each once: a report that lost both its races to newer
versions wrote nothing. -/
theorem reports_linearizable {s₀ : Store} {now : Instant} {jobs : List Job}
    (hg : ∀ j ∈ jobs, j.guarded = true) {acts : List Act} {s : Sys}
    (hrun : (Sys.start s₀ now jobs).run acts = some s) :
    s.log.Nodup ∧ (∀ i, i ∈ s.log ↔ s.stage i = .finished) ∧
      s.store = (s.log.filterMap (jobs[·]?)).foldl (Job.atomic now) s₀ := by
  have h := Inv.run hg Inv.start hrun
  exact ⟨h.nodup, h.logged, h.serial⟩


open WriteRace in
/-- Two reports race: the later one loses its first write to the earlier, reads again and
writes. -/
theorem racing_reports_serial :
    (∀ j ∈ [entryReport .partiallyFilled 2 200, entryReport .filled 3 300], j.guarded = true) ∧
      ((Sys.start partFilled none [entryReport .partiallyFilled 2 200, entryReport .filled 3 300]).run
        [.read 0, .read 1, .write 0, .write 1, .read 1, .write 1]).isSome ∧
      ∀ s, (Sys.start partFilled none
          [entryReport .partiallyFilled 2 200, entryReport .filled 3 300]).run
          [.read 0, .read 1, .write 0, .write 1, .read 1, .write 1] = some s →
        s.log.Nodup ∧ (∀ i, i ∈ s.log ↔ s.stage i = .finished) ∧
          s.store = (s.log.filterMap
            ([entryReport .partiallyFilled 2 200, entryReport .filled 3 300][·]?)).foldl
            (Job.atomic none) partFilled :=
  ⟨by decide, by decide +kernel, fun _ h => reports_linearizable (by decide) h⟩

open WriteRace in
/-- A merge reads the primary, a report fills it to three units at 110, and the merge writes the
size it computed from its read: the primary ends at two units, where the two calls run one at a
time end at four in either order. -/
theorem merge_overwrites_fill :
    (((Sys.start partFilled none [mergeOne, entryReport .filled 3 200]).run
        [.read 0, .read 1, .write 1, .write 0]).map fun s => primarySize s.store) == some (some 2) ∧
      primarySize ([mergeOne, entryReport .filled 3 200].foldl (Job.atomic none) partFilled) ==
        some 4 ∧
      primarySize ([entryReport .filled 3 200, mergeOne].foldl (Job.atomic none) partFilled) ==
        some 4 := by
  decide +kernel

end TradeLedger
