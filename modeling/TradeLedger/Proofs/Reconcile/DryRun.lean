import TradeLedger.Proofs.Reconcile.RunTally
import TradeLedger.Proofs.Position.Freshness
import TradeLedger.Proofs.Number.Monotone
/-!
# A dry run decides what a real run does

A dry run and a real run over the same desk walk the same trades through the same greedy
matching: they ask the same questions, claim the same close ids and derive the same figures. The
real run writes each correction to its trade's row, and a write that fails makes its trade a
failed trade; the dry run writes nothing. Which writes pass, the staged failures decide alone. A
failed write is counted once the context has been looked at, so when the context has ended by
then the real run fails at once, while the dry run reports after its last trade.

## Main definitions

* `Desk.decisions`: what both modes share; a step is `Desk.Aside` when it only touches that.
* `Desk.DryTwin`: a dry and a real desk at one point of a run.
* `Desk.RunEnd`: how the two runs end, side by side.

## Theorems

* `Desk.dryRun_decides_as_real`: a dry run writes nothing and decides what the real run does.
-/


namespace TradeLedger

namespace FaultPlan

variable {α : Type}

/-- Of the calls `cs` of method `m`, made in turn under the plan `p`, those that meet no staged
failure. -/
def passing (p : FaultPlan) (m : StoreMethod) : List α → List α
  | [] => []
  | c :: cs =>
    match p.trip m with
    | (p', none) => c :: p'.passing m cs
    | (p', some _) => p'.passing m cs

/-- One call, counted against the plan. -/
theorem passing_cons (p : FaultPlan) (m : StoreMethod) (c : α) (cs : List α) :
    p.passing m (c :: cs) = match (p.trip m).2 with
      | none => c :: (p.trip m).1.passing m cs
      | some _ => (p.trip m).1.passing m cs := by
  rw [passing]
  rcases p.trip m with ⟨p', _ | f⟩ <;> rfl

theorem passing_cons_of_none {p p' : FaultPlan} {m : StoreMethod} (h : p.trip m = (p', none))
    (c : α) (cs : List α) : p.passing m (c :: cs) = c :: p'.passing m cs := by
  rw [passing, h]

theorem passing_cons_of_some {p p' : FaultPlan} {m : StoreMethod} {f : Fault}
    (h : p.trip m = (p', some f)) (c : α) (cs : List α) : p.passing m (c :: cs) = p'.passing m cs := by
  rw [passing, h]

/-- Counting a call of one method leaves the failure staged for another. -/
theorem find?_trip_of_ne {p : FaultPlan} {m m' : StoreMethod} (h : m' ≠ m) :
    (p.trip m').1.staged.find? (·.1 == m) = p.staged.find? (·.1 == m) := by
  unfold trip
  split
  · rfl
  · rename_i f _
    dsimp only
    rw [List.find?_map]
    -- the rewritten entries are those of `m'`, which a search for `m` passes over
    have hpred : ((·.1 == m) ∘ fun e : StoreMethod × StagedFailure =>
        if (e.1 == m') = true then (m', f.call.1) else e) = (·.1 == m) := by
      funext e
      by_cases he : e.1 = m' <;> simp [he]
    rw [hpred]
    rcases hfind : p.staged.find? (·.1 == m) with _ | e
    · simp [hfind]
    · have he : e.1 = m := by simpa using List.find?_some hfind
      simp [hfind, he, Ne.symm h]

/-- Whether a call fails is read off the failure staged for its method. -/
theorem trip_snd (p : FaultPlan) (m : StoreMethod) :
    (p.trip m).2 = (p.staged.find? (·.1 == m)).bind fun e =>
      if e.2.call.2 then some e.2.fault else none := by
  unfold trip
  split <;> rename_i hfind <;> simp [hfind]

/-- A counted call leaves its method's failure one call further on. -/
theorem find?_trip_self (p : FaultPlan) (m : StoreMethod) :
    (p.trip m).1.staged.find? (·.1 == m) =
      (p.staged.find? (·.1 == m)).map fun e => (m, e.2.call.1) := by
  unfold trip
  split
  · rename_i hfind
    rw [hfind]
    rfl
  · rename_i m₀ f hfind
    dsimp only
    rw [List.find?_map]
    have hpred : ((·.1 == m) ∘ fun e : StoreMethod × StagedFailure =>
        if (e.1 == m) = true then (m, f.call.1) else e) = (·.1 == m) := by
      funext e
      by_cases he : e.1 = m <;> simp [he]
    have hm₀ : m₀ = m := by simpa using List.find?_some hfind
    rw [hpred, hfind]
    simp [hm₀]

/-- Which calls of a method pass depends only on the failure staged for it. -/
theorem passing_congr {m : StoreMethod} : ∀ (cs : List α) {p q : FaultPlan},
    p.staged.find? (·.1 == m) = q.staged.find? (·.1 == m) → p.passing m cs = q.passing m cs
  | [], _, _, _ => rfl
  | c :: cs, p, q, h => by
    have hnext : (p.trip m).1.staged.find? (·.1 == m) = (q.trip m).1.staged.find? (·.1 == m) := by
      rw [find?_trip_self, find?_trip_self, h]
    rw [passing_cons, passing_cons, trip_snd p, trip_snd q, h]
    split
    · rw [passing_congr cs hnext]
    · exact passing_congr cs hnext

theorem passing_of_staged_nil {p : FaultPlan} (h : p.staged = []) (m : StoreMethod) :
    ∀ cs : List α, p.passing m cs = cs
  | [] => rfl
  | c :: cs => by
    rw [passing_cons_of_none (FaultPlan.trip_of_staged_nil h m), passing_of_staged_nil h m cs]

theorem passing_trip_of_ne {p : FaultPlan} {m m' : StoreMethod} (h : m' ≠ m) (cs : List α) :
    (p.trip m').1.passing m cs = p.passing m cs :=
  passing_congr cs (find?_trip_of_ne h)

end FaultPlan

namespace Report

/-- A report without the mode, the updates, the failures and the corrections. -/
def decisions (rep : Report) : Report :=
  { rep with dryRun := false, updated := 0, failed := 0, corrections := [] }

/-- The report `rep` with the mode, the updates, the failures and the corrections of `o`. -/
def withRunOf (rep o : Report) : Report :=
  { rep with dryRun := o.dryRun, updated := o.updated, failed := o.failed,
             corrections := o.corrections }

/-- A real run's report as the dry run's report `D` decides it under the staged failures `p`: the
same counts of trades examined, matched, matched within the relaxed tolerances only and
unmatched; the dry corrections whose writes pass, in order; and each failed write one more
failed trade. -/
structure DecidedBy (R D : Report) (p : FaultPlan) : Prop where
  examined : R.examined = D.examined
  matched : R.matched = D.matched
  relaxed : R.relaxed = D.relaxed
  unmatched : R.unmatched = D.unmatched
  corrections : R.corrections = p.passing .updateReconciled D.corrections
  failed : R.failed + R.corrections.length = D.failed + D.corrections.length

end Report

namespace Desk

variable {α β : Type}

/-- A desk without what a dry run and a real run leave differently: the store, the staged
failures, and the mode, updates, failures and corrections of the report. -/
def decisions (d : Desk) : Desk :=
  { d with store := {}, plan := {},
           reconciler := { d.reconciler with report := d.reconciler.report.decisions } }

/-- The desk `e` with what `d` holds of a run's own: its store, its staged failures and its
report's mode, updates, failures and corrections. -/
def withRunOf (e d : Desk) : Desk :=
  { e with store := d.store, plan := d.plan,
           reconciler := { e.reconciler with
             report := e.reconciler.report.withRunOf d.reconciler.report } }

@[simp] theorem decisions_withRunOf (e d : Desk) : (e.withRunOf d).decisions = e.decisions := rfl

/-- A step that reads and changes only a desk's decisions: from any desk it answers as from the
desk's decisions, and leaves them as it leaves those, the rest kept. -/
def Aside (x : DeskM α) : Prop :=
  ∀ d, exec x d = ((exec x d.decisions).1, (exec x d.decisions).2.withRunOf d)

theorem aside_pure (a : α) : Aside (pure a : DeskM α) := fun _ => rfl

theorem aside_throw (f : Fault) : Aside (throw f : DeskM α) := fun _ => rfl

theorem aside_exact (e : Exact α) : Aside (exact e) := by
  intro d
  cases e <;> rfl

theorem Aside.bind {x : DeskM α} {f : α → DeskM β} (hx : Aside x) (hf : ∀ a, Aside (f a)) :
    Aside (x >>= f) := by
  intro d
  rw [exec_bind, exec_bind, hx d]
  rcases exec x d.decisions with ⟨_ | a, e⟩
  · rfl
  · dsimp only
    rw [hf a (e.withRunOf d), hf a e, decisions_withRunOf]
    rfl

/-- A step that reads the reconciler only through its decisions. -/
theorem aside_engine_bind {f : Reconciler → DeskM α} (hf : ∀ r, Aside (f r))
    (hr : ∀ d : Desk, f d.decisions.reconciler = f d.reconciler) : Aside (engine >>= f) := by
  intro d
  rw [exec_bind, exec_bind, exec_engine, exec_engine]
  dsimp only
  rw [hf d.reconciler d, ← hr d]

theorem aside_examined : Aside (count fun rep => { rep with examined := rep.examined + 1 }) :=
  fun _ => rfl

theorem aside_checkContext : Aside checkContext := by
  unfold checkContext
  refine aside_engine_bind (fun r => ?_) fun _ => rfl
  split
  · exact aside_throw _
  · exact aside_pure _

theorem aside_pace : Aside pace := by
  unfold pace
  refine aside_checkContext.bind fun _ => aside_engine_bind (fun r => ?_) fun _ => rfl
  split
  · exact fun _ => rfl
  · exact aside_throw _

theorem aside_askHistory (symbol : String) (start stop : Int) :
    Aside (askHistory symbol start stop) := by
  unfold askHistory
  refine Aside.bind (fun _ => rfl) fun _ => aside_engine_bind (fun r => ?_) fun _ => rfl
  split
  · exact aside_pure _
  · exact aside_throw _

theorem aside_fundingOf (t : Trade) (rec : Record) : Aside (fundingOf t rec) := by
  unfold fundingOf
  refine aside_engine_bind (fun r => ?_) fun _ => rfl
  split
  · split
    · exact aside_pure _
    · unfold askFunding
      refine Aside.bind (fun _ => rfl) fun _ => ?_
      split
      · exact aside_pure _
      · exact aside_throw _
  · exact aside_pure _

end Desk

namespace Store

/-- Storing a reconciled figure that is not NaN for a trade of an open store goes through, and
leaves the store open with the same trade ids. -/
theorem updateReconciled_of_mem {s : Store} (hclosed : s.closed = false) {id : String}
    (hid : id ∈ s.rows.map (·.trade.id)) (now : Instant) {pnl : Float} (hpnl : pnl.isNaN = false)
    (closeId : String) (stamp : Instant) :
    ∃ s', s.updateReconciled now id pnl closeId stamp = .ok s' ∧ s'.closed = false ∧
      s'.rows.map (·.trade.id) = s.rows.map (·.trade.id) := by
  obtain ⟨r, hr, hrid⟩ := List.mem_map.mp hid
  obtain ⟨s', hs'⟩ := write_ok_of_mem now
    (fun t => { t with realizedPnl := storedFloat pnl, reconciledCloseId := closeId,
                       reconciledAt := stamp }) hr hrid
  have hup : s.updateReconciled now id pnl closeId stamp = .ok s' := by
    unfold updateReconciled guard
    simp only [hclosed, Bool.false_eq_true, if_false, hs', bind, Except.bind]
    rw [requireNumbers_ok fun x hx => by rw [List.mem_singleton.mp hx]; exact hpnl]
    rfl
  have hset := settles_updateReconciled hup
  exact ⟨s', hup, hset.closed.trans hclosed, hset.ids_eq⟩

end Store

namespace Desk

variable {α : Type} {P : FaultPlan} {rows : List Row}

/-- A dry and a real desk at one point of a run over `rows`, the writes meeting the staged
failures of `P` from the first on. Their decisions agree; the dry desk still holds `rows`; the
real store is open with the ids of `rows`; the real corrections so far are the dry ones whose
writes passed, and the real plan decides the rest. Every failed write is a failed trade, but
the last `lag`, not counted yet. -/
structure DryTwin (P : FaultPlan) (rows : List Row) (lag : Nat) (dry real : Desk) : Prop where
  decisions : dry.decisions = real.decisions
  dryMode : dry.reconciler.report.dryRun = true
  realMode : real.reconciler.report.dryRun = false
  dryRows : dry.store.rows = rows
  opened : real.store.closed = false
  ids : real.store.rows.map (·.trade.id) = rows.map (·.trade.id)
  passing : ∀ more : List Correction,
    P.passing .updateReconciled (dry.reconciler.report.corrections ++ more) =
      real.reconciler.report.corrections ++ real.plan.passing .updateReconciled more
  failed : real.reconciler.report.failed + real.reconciler.report.corrections.length + lag =
    dry.reconciler.report.failed + dry.reconciler.report.corrections.length
  lagged : real.reconciler.report.corrections.length + lag ≤ dry.reconciler.report.corrections.length

/-- An aside step keeps twin desks twins, and answers alike on them. -/
theorem Aside.twin {x : DeskM α} (hx : Aside x) {lag : Nat} {dry real : Desk}
    (h : DryTwin P rows lag dry real) :
    (exec x dry).1 = (exec x real).1 ∧ DryTwin P rows lag (exec x dry).2 (exec x real).2 := by
  rw [hx dry, hx real, h.decisions]
  exact ⟨rfl, rfl, h.dryMode, h.realMode, h.dryRows, h.opened, h.ids, h.passing, h.failed, h.lagged⟩

/-- How a trade ends from twin desks: alike, or with the dry trade done and the real one failed
at its write, the failure not counted yet. -/
def TradeEnd (P : FaultPlan) (rows : List Row) (p q : Except Fault Unit × Desk) : Prop :=
  (p.1 = q.1 ∧ DryTwin P rows 0 p.2 q.2) ∨
    (p.1 = .ok () ∧ (∃ f, q.1 = .error f ∧ f.kind ≠ .panic) ∧ DryTwin P rows 1 p.2 q.2)

/-- Runs of `x` from twin desks, as `E` relates their ends. -/
def Twinned {β : Type} (P : FaultPlan) (rows : List Row)
    (E : Except Fault β × Desk → Except Fault β × Desk → Prop) (x : DeskM β) : Prop :=
  ∀ dry real, DryTwin P rows 0 dry real → E (exec x dry) (exec x real)

/-- A step of a trade, run from twin desks, ends as `TradeEnd` says. -/
abbrev Mirrored (P : FaultPlan) (rows : List Row) (x : DeskM Unit) : Prop :=
  Twinned P rows (TradeEnd P rows) x

section Twinned

variable {β : Type} {E : Except Fault β × Desk → Except Fault β × Desk → Prop}

/-- An aside step, then a twinned one, is twinned, when ends that fail alike are ends `E` allows. -/
theorem Aside.twinned_bind {x : DeskM α} {f : α → DeskM β}
    (hE : ∀ e dry real, DryTwin P rows 0 dry real → E (.error e, dry) (.error e, real))
    (hx : Aside x) (hf : ∀ a, Twinned P rows E (f a)) : Twinned P rows E (x >>= f) := by
  intro dry real h
  obtain ⟨hans, htwin⟩ := hx.twin h
  rw [exec_bind, exec_bind]
  revert hans htwin
  rcases exec x dry with ⟨_ | a, dry'⟩ <;> rcases exec x real with ⟨_ | a', real'⟩ <;>
    intro hans htwin <;> cases hans
  · exact hE _ dry' real' htwin
  · exact hf a dry' real' htwin

/-- A step that reads only the decisions of the reconciler is twinned when it is from every
reconciler. -/
theorem twinned_engine_bind {f : Reconciler → DeskM β} (hf : ∀ r, Twinned P rows E (f r))
    (hr : ∀ d : Desk, f d.decisions.reconciler = f d.reconciler) :
    Twinned P rows E (engine >>= f) := by
  intro dry real h
  rw [exec_bind, exec_bind, exec_engine, exec_engine]
  dsimp only
  rw [← hr dry, ← hr real, h.decisions]
  exact hf _ dry real h

end Twinned

theorem Aside.mirrored {x : DeskM Unit} (hx : Aside x) : Mirrored P rows x :=
  fun _ _ h => .inl (hx.twin h)

theorem Aside.mirrored_bind {x : DeskM α} {f : α → DeskM Unit} (hx : Aside x)
    (hf : ∀ a, Mirrored P rows (f a)) : Mirrored P rows (x >>= f) :=
  hx.twinned_bind (fun _ _ _ h => .inl ⟨rfl, h⟩) hf

/-- The correction of a listed trade: the one step where the runs part, the real run writing
the figure the dry run only lists. -/
theorem mirrored_correct {cfg : ReconcileConfig} {t : Trade} {rec : Record} {relaxed : Bool}
    {funding : Float} (hid : t.id ∈ rows.map (·.trade.id)) :
    Mirrored P rows (correct cfg t rec relaxed funding) := by
  unfold correct
  refine (aside_exact _).mirrored_bind fun derived => (aside_exact _).mirrored_bind fun material => ?_
  split
  · exact (aside_pure _).mirrored
  intro dry real h
  rw [exec_bind, exec_bind, exec_engine, exec_engine]
  dsimp only
  rw [h.dryMode, h.realMode]
  simp only [Bool.not_true, Bool.not_false, Bool.false_eq_true, if_false, if_true]
  have hpass := h.passing
  have hfailed := h.failed
  have hlagged := h.lagged
  rcases htrip : real.plan.trip .updateReconciled with ⟨p', _ | f⟩
  · -- the write meets no staged failure, and the open store holds the trade's row
    obtain ⟨s', hs', hclosed', hids'⟩ := Store.updateReconciled_of_mem h.opened (h.ids ▸ hid)
      real.now (derived.round 8).toFloat_isNaN rec.closeId real.now
    simp only [exec_bind, exec_clock, exec_change, htrip, hs', count, adjust, exec_modify]
    refine .inl ⟨rfl, h.decisions, h.dryMode, h.realMode, h.dryRows, hclosed', hids'.trans h.ids,
      fun more => ?_, ?_, ?_⟩
    · simp only [List.append_assoc, List.singleton_append, hpass,
        FaultPlan.passing_cons_of_none htrip]
    · simp only [List.length_append, List.length_singleton]
      omega
    · simp only [List.length_append, List.length_singleton]
      omega
  · -- the write fails as staged: the dry run lists the correction the real one lacks
    simp only [exec_bind, exec_clock, exec_change, htrip, count, adjust, exec_modify]
    refine .inr ⟨rfl, ⟨f, rfl, trip_calm (by rw [htrip])⟩, h.decisions, h.dryMode, h.realMode,
      h.dryRows, h.opened, h.ids, fun more => ?_, ?_, ?_⟩
    · simp only [List.append_assoc, List.singleton_append, hpass,
        FaultPlan.passing_cons_of_some htrip]
    · simp only [List.length_append, List.length_singleton]
      omega
    · simp only [List.length_append, List.length_singleton]
      omega

/-- A listed trade ends alike in both runs, but for a write the staged failures refuse. -/
theorem mirrored_reconcileTrade {t : Trade} (hid : t.id ∈ rows.map (·.trade.id)) :
    Mirrored P rows (reconcileTrade t) := by
  unfold reconcileTrade
  split
  · exact (Aside.bind (fun _ => rfl) fun _ => aside_pure _).mirrored
  refine aside_pace.mirrored_bind fun _ => twinned_engine_bind (fun r => ?_) fun _ => rfl
  refine (aside_askHistory _ _ _).mirrored_bind fun records =>
    twinned_engine_bind (fun r' => ?_) fun _ => rfl
  split
  · exact Aside.mirrored fun _ => rfl
  · exact Aside.mirrored_bind (fun _ => rfl) fun _ => Aside.mirrored_bind (fun _ => rfl) fun _ =>
      (aside_fundingOf t _).mirrored_bind fun _ => mirrored_correct hid

/-- The failure of an ended context, read off the reconciler as it is. -/
theorem exec_checkContext (d : Desk) :
    exec checkContext d = (match contextFault d.reconciler with
      | some f => .error f
      | none => .ok (), d) := by
  unfold checkContext
  rw [exec_bind, exec_engine]
  dsimp only
  cases contextFault d.reconciler <;> rfl

theorem DryTwin.contextFault_eq {lag : Nat} {dry real : Desk} (h : DryTwin P rows lag dry real) :
    contextFault dry.reconciler = contextFault real.reconciler := by
  have h' := congrArg (fun d : Desk => contextFault d.reconciler) h.decisions
  exact h'

/-- Counting the failed write as a failed trade brings the real desk back in step. -/
theorem DryTwin.countFailed {dry real : Desk} (h : DryTwin P rows 1 dry real) :
    DryTwin P rows 0 dry
      (exec (count fun rep => { rep with failed := rep.failed + 1 }) real).2 := by
  refine ⟨h.decisions, h.dryMode, h.realMode, h.dryRows, h.opened, h.ids, h.passing, ?_, ?_⟩
  · have := h.failed
    simp only [count, adjust, exec_modify]
    omega
  · exact Nat.le_of_add_right_le h.lagged

theorem DryTwin.countFailedBoth {lag : Nat} {dry real : Desk} (h : DryTwin P rows lag dry real) :
    DryTwin P rows lag (exec (count fun rep => { rep with failed := rep.failed + 1 }) dry).2
      (exec (count fun rep => { rep with failed := rep.failed + 1 }) real).2 := by
  refine ⟨h.decisions, h.dryMode, h.realMode, h.dryRows, h.opened, h.ids, h.passing, ?_, h.lagged⟩
  have := h.failed
  simp only [count, adjust, exec_modify]
  omega

/-- How the loops of a dry run and of a real run end from twin desks: both done and in step;
both failed alike; or the dry run done where the real one stopped at its context right after a
failed write of the last trade. The desks stay twins up to the failed writes not yet counted. -/
def RunEnd (P : FaultPlan) (rows : List Row) (p q : Except Fault Unit × Desk) : Prop :=
  ∃ lag, DryTwin P rows lag p.2 q.2 ∧
    ((p.1 = .ok () ∧ q.1 = .ok () ∧ lag = 0) ∨ (∃ f, p.1 = .error f ∧ q.1 = .error f) ∨
      (p.1 = .ok () ∧ (∃ f, q.1 = .error f) ∧ lag = 1))

/-- Two runs stopped by one failure. -/
theorem runEnd_error (e : Fault) {dry real : Desk} (h : DryTwin P rows 0 dry real) :
    RunEnd P rows (.error e, dry) (.error e, real) :=
  ⟨0, h, .inr (.inl ⟨e, rfl, rfl⟩)⟩

/-- The loops over listed trades end as `RunEnd` says. -/
theorem twinned_reconcileEach : ∀ ts : List Trade, (∀ t ∈ ts, t.id ∈ rows.map (·.trade.id)) →
    Twinned P rows (RunEnd P rows) (reconcileEach ts)
  | [], _ => fun _ _ h => ⟨0, h, .inl ⟨rfl, rfl, rfl⟩⟩
  | t :: ts, hts => by
    have ih := twinned_reconcileEach ts fun t' ht' => hts t' (List.mem_cons_of_mem t ht')
    unfold reconcileEach
    refine aside_checkContext.twinned_bind runEnd_error fun _ =>
      aside_examined.twinned_bind runEnd_error fun _ => ?_
    intro dry real h
    rw [exec_bind, exec_bind, exec_attempt, exec_attempt]
    rcases mirrored_reconcileTrade (hts t List.mem_cons_self) dry real h with
      ⟨hans, h'⟩ | ⟨hok, ⟨f, hf, hkind⟩, h'⟩
    · revert hans h'
      rcases exec (reconcileTrade t) dry with ⟨e | _, dry'⟩ <;>
        rcases exec (reconcileTrade t) real with ⟨e' | _, real'⟩ <;> intro hans h' <;> cases hans
      · -- both trades failed alike: a stop stops both, any other failure is counted by both
        by_cases hp : (e.kind == FaultKind.panic) = true
        · simp only [hp, if_true]
          exact runEnd_error _ h'
        · simp only [hp, Bool.false_eq_true, if_false]
          refine (aside_checkContext.twinned_bind runEnd_error fun _ => ?_) dry' real' h'
          intro dry₁ real₁ h₁
          rw [exec_bind, exec_bind]
          exact ih _ _ h₁.countFailedBoth
      · exact ih dry' real' h'
    · -- the dry trade went through and the real one failed at its write
      have hd : exec (reconcileTrade t) dry = (.ok (), (exec (reconcileTrade t) dry).2) := by
        rw [← hok]
      have hr : exec (reconcileTrade t) real = (.error f, (exec (reconcileTrade t) real).2) := by
        rw [← hf]
      generalize (exec (reconcileTrade t) dry).2 = dry' at hd h'
      generalize (exec (reconcileTrade t) real).2 = real' at hr h'
      have hcalm : (f.kind == FaultKind.panic) = false := by simpa using hkind
      rw [hd, hr]
      simp only [hcalm, Bool.false_eq_true, if_false]
      rw [exec_bind (x := checkContext), exec_checkContext]
      rcases hc : contextFault real'.reconciler with _ | g
      · -- the context is live: the failed write is counted and the runs are in step again
        dsimp only
        rw [exec_bind]
        exact ih dry' _ h'.countFailed
      · -- the context has ended: the real run stops, and the dry one at its next trade if any
        dsimp only
        cases ts with
        | nil => exact ⟨1, h', .inr (.inr ⟨rfl, ⟨g, rfl⟩, rfl⟩)⟩
        | cons t' ts' =>
          unfold reconcileEach
          rw [exec_bind, exec_checkContext, h'.contextFault_eq, hc]
          exact ⟨1, h', .inr (.inl ⟨g, rfl, rfl⟩)⟩

/-- What a run does once its trades are done: the report finished, the metrics and the audit
trail. -/
def finishRun : DeskM Report := do
  let finished ← clock
  count fun rep => { rep with finishedAt := finished }
  let rep := (← engine).report
  tally fun m => { m with reconcileUpdates := m.reconcileUpdates + rep.updated,
                          reconcileFailures := m.reconcileFailures + rep.failed }
  recordRun rep
  pure rep

/-- A finished run answers its report, stamped with the clock, and leaves the trade rows. -/
theorem exec_finishRun (d : Desk) :
    ∃ d', exec finishRun d = (.ok { d.reconciler.report with finishedAt := d.now }, d') ∧
      d'.store.rows = d.store.rows := by
  unfold finishRun
  rw [exec_bind, exec_clock]
  dsimp only
  rw [exec_bind]
  simp only [count, adjust, exec_modify]
  rw [exec_bind, exec_engine]
  dsimp only
  rw [exec_bind, exec_tally]
  dsimp only
  rw [exec_bind]
  generalize hE : exec (recordRun _) _ = E
  obtain ⟨s, w, rfl, hs⟩ := recordRun_trail hE
  exact ⟨_, rfl, hs.1⟩

/-- The desk a run's trades are listed from: the report started for the run and no close id
claimed. -/
def runStart (d : Desk) (runId : String) (opts : RunOptions) : Desk :=
  { d with reconciler := { d.reconciler with
      report := { runId, startedAt := d.now, dryRun := opts.dryRun,
                  lookback := if opts.lookback ≤ 0 then 24 * 3600 * Duration.perSecond
                    else opts.lookback }
      claimed := [] } }

/-- A run body lists its trades from the desk with the run started. -/
theorem exec_runBody (d : Desk) (runId : String) (opts : RunOptions) :
    exec (runBody runId opts) d =
      exec (within "reconcile: list closed trades: "
          (read .listClosed (·.closedSince opts.traderId (opts.since d.now))) >>= fun trades =>
        adjust (fun r => { r with claimed := recordedClaims trades }) >>= fun _ =>
        reconcileEach trades >>= fun _ => finishRun) (d.runStart runId opts) := by
  unfold runBody
  rw [exec_bind, exec_clock]
  dsimp only
  rw [exec_bind]
  simp only [adjust, exec_modify]
  rfl

/-- How a whole dry run and real run over the rows `rows`, under the staged failures `p`, end:
the dry run leaves the rows; it fails only where the real run fails alike; a real report is
decided by a dry one; and a dry report whose writes would all pass has a real report. -/
structure ReportEnd (p : FaultPlan) (rows : List Row) (dry real : Except Fault Report × Desk) :
    Prop where
  dryRows : dry.2.store.rows = rows
  failsAlike : ∀ f, dry.1 = .error f → real.1 = .error f
  decided : ∀ R, real.1 = .ok R → ∃ D, dry.1 = .ok D ∧ R.DecidedBy D p
  goesThrough : ∀ D, dry.1 = .ok D → p.passing .updateReconciled D.corrections = D.corrections →
    ∃ R, real.1 = .ok R

theorem reportEnd_error (p : FaultPlan) (f : Fault) {dry real : Desk} (h : dry.store.rows = rows) :
    ReportEnd p rows (.error f, dry) (.error f, real) :=
  ⟨h, fun _ h => h, fun _ h => (by cases h), fun _ h => (by cases h)⟩

/-- Loops that end as `RunEnd` says end, once finished, as `ReportEnd` says. -/
theorem RunEnd.reportEnd {p₀ : FaultPlan} {x : DeskM Unit} {dry real : Desk}
    (h : RunEnd P rows (exec x dry) (exec x real))
    (hP : ∀ cs : List Correction,
      P.passing .updateReconciled cs = p₀.passing .updateReconciled cs) :
    ReportEnd p₀ rows (exec (x >>= fun _ => finishRun) dry)
      (exec (x >>= fun _ => finishRun) real) := by
  rw [exec_bind, exec_bind]
  revert h
  rcases exec x dry with ⟨da, dd⟩
  rcases exec x real with ⟨ra, rd⟩
  rintro ⟨lag, htw, hend⟩
  have hcorr : rd.reconciler.report.corrections =
      p₀.passing .updateReconciled dd.reconciler.report.corrections := by
    simpa [FaultPlan.passing, hP] using (htw.passing []).symm
  have hview := congrArg (fun d : Desk => d.reconciler.report.decisions) htw.decisions
  have hfailed := htw.failed
  have hlagged := htw.lagged
  dsimp only at hview
  rcases hend with ⟨rfl, rfl, rfl⟩ | ⟨f, rfl, rfl⟩ | ⟨rfl, ⟨f, rfl⟩, rfl⟩
  · -- both loops went through: the reports are the loops' own, finished alike
    obtain ⟨dd', hdd, hdrows⟩ := exec_finishRun dd
    obtain ⟨rd', hrd, -⟩ := exec_finishRun rd
    dsimp only
    rw [hdd, hrd]
    refine ⟨hdrows.trans htw.dryRows, fun _ h => (by cases h), fun R hR => ⟨_, rfl, ?_⟩,
      fun _ _ _ => ⟨_, rfl⟩⟩
    cases hR
    exact ⟨(congrArg Report.examined hview).symm, (congrArg Report.matched hview).symm,
      (congrArg Report.relaxed hview).symm, (congrArg Report.unmatched hview).symm, hcorr,
      by simpa using hfailed⟩
  · exact reportEnd_error p₀ f htw.dryRows
  · -- the real run stopped after a failed write: the dry report lists a correction more
    obtain ⟨dd', hdd, hdrows⟩ := exec_finishRun dd
    dsimp only
    rw [hdd]
    refine ⟨hdrows.trans htw.dryRows, fun _ h => (by cases h), fun _ h => (by cases h), ?_⟩
    intro D hD hpass
    cases hD
    have hlen := congrArg List.length (hcorr.trans hpass)
    dsimp only at hlen hlagged
    omega

/-- A run body in both modes. -/
theorem runBody_twins (d : Desk) (runId : String) (opts : RunOptions) :
    ReportEnd d.plan d.store.rows (exec (runBody runId { opts with dryRun := true }) d)
      (exec (runBody runId { opts with dryRun := false }) d) := by
  have hsince : ∀ b : Bool,
      ({ opts with dryRun := b } : RunOptions).since d.now = opts.since d.now := fun _ => rfl
  rw [exec_runBody, exec_runBody, hsince true, hsince false, exec_bind, exec_bind, exec_within,
    exec_within, exec_read, exec_read]
  dsimp only [runStart]
  rcases (d.plan.trip .listClosed).2 with _ | f
  · rcases hL : d.store.closedSince opts.traderId (opts.since d.now) with f | ts
    · dsimp only
      exact reportEnd_error _ _ rfl
    · dsimp only
      rw [exec_bind, exec_bind]
      simp only [adjust, exec_modify]
      have hclosed : d.store.closed = false := by
        unfold Store.closedSince at hL
        exact (Store.guard_bind_ok hL).2
      have hmem : ∀ t ∈ ts, t.id ∈ d.store.rows.map (·.trade.id) := by
        intro t ht
        obtain ⟨r, hr, rfl⟩ := Store.closedSince_mem hL ht
        exact List.mem_map_of_mem hr
      -- the listing leaves the two runs twins, with the listing's call counted
      refine RunEnd.reportEnd (twinned_reconcileEach (P := (d.plan.trip .listClosed).1) ts hmem _ _
        ⟨rfl, rfl, rfl, rfl, hclosed, rfl,
        fun more => by simp, by simp, by simp⟩) fun cs => ?_
      exact FaultPlan.passing_trip_of_ne (by decide) cs
  · dsimp only
    exact reportEnd_error _ _ rfl

/-- A whole run in both modes. -/
theorem reconcile_twins (d : Desk) (runId : String) (opts : RunOptions) :
    ReportEnd d.plan d.store.rows (exec (reconcile runId { opts with dryRun := true }) d)
      (exec (reconcile runId { opts with dryRun := false }) d) := by
  unfold reconcile
  rw [exec_bind, exec_bind, exec_engine]
  dsimp only
  split
  · -- a run asked for while another is going on is refused in either mode
    rw [exec_bind, exec_bind, exec_throw]
    exact reportEnd_error _ _ rfl
  rw [exec_bind, exec_bind]
  simp only [adjust, exec_modify]
  have hb := runBody_twins { d with reconciler := { d.reconciler with running := true } } runId opts
  rw [exec_bind, exec_bind, exec_tryCatch, exec_tryCatch, exec_map, exec_map]
  revert hb
  rcases exec (runBody runId { opts with dryRun := true }) _ with ⟨_ | D, dd⟩ <;>
    rcases exec (runBody runId { opts with dryRun := false }) _ with ⟨_ | R, rd⟩ <;>
    rintro ⟨hrows, hfails, hdecided, hthrough⟩ <;>
    simp only [exec_pure, exec_bind, exec_modify, exec_throw] <;>
    exact ⟨hrows, hfails, hdecided, hthrough⟩

/-- A dry run decides what a real run does. It leaves every trade row, and fails only where the
real run fails alike. When the real run reports, so does the dry run, with the same counts of
trades examined, matched, matched only within the relaxed tolerances, and unmatched; the real
corrections are the dry ones whose writes met no staged failure, in order, and each failed write
is one more failed trade. When no dry correction would fail to be written, the real run reports
with the dry run's failures and corrections. -/
theorem dryRun_decides_as_real (d : Desk) (runId : String) (opts : RunOptions) :
    (exec (reconcile runId { opts with dryRun := true }) d).2.store.rows = d.store.rows ∧
    (∀ f, (exec (reconcile runId { opts with dryRun := true }) d).1 = .error f →
      (exec (reconcile runId { opts with dryRun := false }) d).1 = .error f) ∧
    (∀ R, (exec (reconcile runId { opts with dryRun := false }) d).1 = .ok R →
      ∃ D, (exec (reconcile runId { opts with dryRun := true }) d).1 = .ok D ∧
        R.DecidedBy D d.plan) ∧
    (∀ D, (exec (reconcile runId { opts with dryRun := true }) d).1 = .ok D →
      d.plan.passing .updateReconciled D.corrections = D.corrections →
      ∃ R, (exec (reconcile runId { opts with dryRun := false }) d).1 = .ok R ∧
        R.examined = D.examined ∧ R.matched = D.matched ∧ R.relaxed = D.relaxed ∧
        R.unmatched = D.unmatched ∧ R.failed = D.failed ∧ R.corrections = D.corrections) := by
  have h := reconcile_twins d runId opts
  refine ⟨h.dryRows, h.failsAlike, h.decided, fun D hD hpass => ?_⟩
  obtain ⟨R, hR⟩ := h.goesThrough D hD hpass
  obtain ⟨D', hD', hdec⟩ := h.decided R hR
  rw [hD] at hD'
  cases hD'
  -- with every write passing, the real corrections are the dry ones and no failure is added
  have hcorr : R.corrections = D.corrections := hdec.corrections.trans hpass
  have hfailed := hdec.failed
  rw [hcorr] at hfailed
  exact ⟨R, hR, hdec.examined, hdec.matched, hdec.relaxed, hdec.unmatched, by omega, hcorr⟩

/-- With the first write refused, the real run of two traders' trades has a failed trade and
no correction where the dry run lists one. -/
example :
    (exec (reconcile "r1" {}) { twoTraderLedger with
        plan := ({} : FaultPlan).stage .updateReconciled ⟨"disk full", 1, 0, 0⟩ }).1.toOption.map
      (fun R => (R.failed, R.corrections.length)) = some (1, 0) ∧
    (exec (reconcile "r1" { dryRun := true }) { twoTraderLedger with
        plan := ({} : FaultPlan).stage .updateReconciled ⟨"disk full", 1, 0, 0⟩ }).1.toOption.map
      (fun D => (D.failed, D.corrections.length)) = some (0, 1) := by
  decide +kernel

end Desk

/-- The run over two traders' trades, dry and real: the dry run lists one correction, and with no
failure staged the real run reports the same. -/
theorem twoTrader_dry_run_as_real :
    let dry := Desk.exec (Desk.reconcile "r1" { ({} : RunOptions) with dryRun := true })
      twoTraderLedger
    let real := Desk.exec (Desk.reconcile "r1" { ({} : RunOptions) with dryRun := false })
      twoTraderLedger
    dry.1.toOption.map (·.corrections.length) = some 1 ∧
    ∃ D R, dry.1 = .ok D ∧ real.1 = .ok R ∧
      R.examined = D.examined ∧ R.matched = D.matched ∧ R.relaxed = D.relaxed ∧
      R.unmatched = D.unmatched ∧ R.failed = D.failed ∧ R.corrections = D.corrections := by
  intro dry real
  have hone : dry.1.toOption.map (·.corrections.length) = some 1 := by decide +kernel
  refine ⟨hone, ?_⟩
  rcases hD : dry.1 with f | D
  · rw [hD] at hone
    cases hone
  · obtain ⟨R, hR, hrest⟩ := (Desk.dryRun_decides_as_real twoTraderLedger "r1" {}).2.2.2 D hD
      (FaultPlan.passing_of_staged_nil rfl _ _)
    exact ⟨D, R, rfl, hR, hrest⟩

end TradeLedger
