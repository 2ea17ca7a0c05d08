import TradeLedger.Command.ServiceSteps
/-!
# Every event reaches every handler of its kind

`Dispatcher.dispatch` decodes a frame and hands each event to the handlers registered for its
kind. A handler is any function of the shared state: it may change it, fail, or stop, a stop
counted as a failure. A spied dispatcher wraps every handler so that it also logs its call.

## Main definitions

* `Dispatcher.spied`: each handler logs its position, the event and whether it failed.
* `Dispatcher.owed`: the calls a frame owes, kind by kind in registration order.

## Theorems

* `dispatch_fans_out`: the spied run answers as the plain one and logs exactly the owed calls;
  when handlers leave the counters alone, errors grow by the failed calls and events by the
  events.
-/

namespace TradeLedger

/-- One handler call: the handler's position among the registrations, the event, and whether
the call failed. -/
structure HandlerCall where
  handler : Nat
  event : Event
  failed : Bool

/-- A state with the log of the handler calls made on it. -/
structure Spied (σ : Type) where
  state : σ
  log : List HandlerCall

/-- The calls owed to some events: for each event in turn, the position of every handler of
its kind, in registration order. -/
def Dispatcher.owed {σ : Type} (d : Dispatcher σ) (events : List Event) : List (Nat × Event) :=
  events.flatMap fun e => (d.handlers.zipIdx.filter (·.1.kind == e.kind.text)).map (·.2, e)

/-- The registration whose handler logs each call under the position `i`. -/
def Registration.spy {σ : Type} (r : Registration σ) (i : Nat) : Registration (Spied σ) :=
  ⟨r.kind, r.name, fun s e =>
    let (t, out) := r.handler s.state e
    (⟨t, s.log ++ [⟨i, e, !out.isOk⟩]⟩, out)⟩

/-- The dispatcher whose handlers log their calls. -/
def Dispatcher.spied {σ : Type} (d : Dispatcher σ) : Dispatcher (Spied σ) :=
  ⟨d.handlers.zipIdx.map fun p => p.1.spy p.2⟩

/-- The logging handlers of a kind are the handlers of that kind, with their positions. -/
theorem Dispatcher.spied_filter {σ : Type} (d : Dispatcher σ) (k : String) :
    d.spied.handlers.filter (·.kind == k) =
      (d.handlers.zipIdx.filter (·.1.kind == k)).map fun p => p.1.spy p.2 :=
  List.filter_map

theorem Dispatcher.filter_zipIdx_fst {σ : Type} (d : Dispatcher σ) (k : String) :
    (d.handlers.zipIdx.filter (·.1.kind == k)).map (·.1) = d.handlers.filter (·.kind == k) := by
  have := (List.filter_map (f := Prod.fst) (p := (·.kind == k)) (l := d.handlers.zipIdx)).symm
  rwa [List.zipIdx_map_fst] at this

variable {σ : Type} [Metered σ]

instance : Metered (Spied σ) where
  metrics s := Metered.metrics s.state
  setMetrics s m := ⟨Metered.setMetrics s.state m, s.log⟩

/-- A state gives back the metrics it was given. -/
def Metered.Lawful (σ : Type) [Metered σ] : Prop :=
  ∀ (s : σ) m, Metered.metrics (Metered.setMetrics s m) = m

/-- The dispatcher's two counters: handler errors and dispatched events. -/
def dispatchCounts (s : σ) : Nat × Nat :=
  ((Metered.metrics s).handlerErrors, (Metered.metrics s).eventsDispatched)

/-- Every handler leaves the dispatcher's counters alone. -/
def Dispatcher.KeepsCounts (d : Dispatcher σ) : Prop :=
  ∀ r ∈ d.handlers, ∀ (s : σ) e, dispatchCounts (r.handler s e).1 = dispatchCounts s

namespace Dispatcher

/-- One call as `publish` makes it: run the handler, and count it when it fails. -/
def invoke (e : Event) (s : σ) (r : Registration σ) : σ :=
  match r.handler s e with
  | (s, .ok ()) => s
  | (s, .error _) => Metered.tally s fun m => { m with handlerErrors := m.handlerErrors + 1 }

theorem publish_eq (d : Dispatcher σ) (s : σ) (e : Event) :
    d.publish s e = Metered.tally ((d.handlers.filter (·.kind == e.kind.text)).foldl (invoke e)
      (Metered.tally s fun m => { m with eventsDispatched := m.eventsDispatched + 1 }))
      fun m => { m with dispatchLatency := m.dispatchLatency.time } := rfl

@[simp] theorem tally_spied (s : σ) (log : List HandlerCall) (f : Metrics → Metrics) :
    Metered.tally (⟨s, log⟩ : Spied σ) f = ⟨Metered.tally s f, log⟩ := rfl

theorem invoke_spy (e : Event) (s : σ) (log : List HandlerCall) (r : Registration σ) (i : Nat) :
    invoke e ⟨s, log⟩ (r.spy i) =
      ⟨invoke e s r, log ++ [⟨i, e, !(r.handler s e).2.isOk⟩]⟩ := by
  obtain ⟨kind, name, h⟩ := r
  unfold invoke Registration.spy
  dsimp only
  rcases h s e with ⟨t, _ | _⟩ <;> rfl

/-- Logging calls changes nothing else: the handlers of `rs`, each logging under its position,
leave the state the plain handlers leave and log one call per handler, in order. -/
theorem foldl_invoke_spy (e : Event) (rs : List (Registration σ × Nat)) (s : σ)
    (log : List HandlerCall) :
    ∃ calls, (rs.map fun p => p.1.spy p.2).foldl (invoke e) ⟨s, log⟩ =
        ⟨(rs.map (·.1)).foldl (invoke e) s, log ++ calls⟩ ∧
      calls.map (fun c => (c.handler, c.event)) = rs.map (·.2, e) := by
  induction rs generalizing s log with
  | nil => exact ⟨[], by simp⟩
  | cons p rs ih =>
    obtain ⟨calls, hrun, hcalls⟩ :=
      ih (invoke e s p.1) (log ++ [⟨p.2, e, !(p.1.handler s e).2.isOk⟩])
    refine ⟨⟨p.2, e, !(p.1.handler s e).2.isOk⟩ :: calls, ?_, by simp [hcalls]⟩
    simp only [List.map_cons, List.foldl_cons, invoke_spy, hrun, List.append_assoc,
      List.singleton_append]

theorem publish_spied (d : Dispatcher σ) (s : σ) (log : List HandlerCall) (e : Event) :
    ∃ calls, d.spied.publish ⟨s, log⟩ e = ⟨d.publish s e, log ++ calls⟩ ∧
      calls.map (fun c => (c.handler, c.event)) = d.owed [e] := by
  obtain ⟨calls, hrun, hcalls⟩ := foldl_invoke_spy e
    (d.handlers.zipIdx.filter (·.1.kind == e.kind.text))
    (Metered.tally s fun m => { m with eventsDispatched := m.eventsDispatched + 1 }) log
  refine ⟨calls, ?_, by simp [hcalls, owed]⟩
  rw [publish_eq, publish_eq, spied_filter, tally_spied s log, hrun, filter_zipIdx_fst, tally_spied]

theorem foldl_publish_spied (d : Dispatcher σ) (events : List Event) (s : σ)
    (log : List HandlerCall) :
    ∃ calls, events.foldl d.spied.publish ⟨s, log⟩ = ⟨events.foldl d.publish s, log ++ calls⟩ ∧
      calls.map (fun c => (c.handler, c.event)) = d.owed events := by
  induction events generalizing s log with
  | nil => exact ⟨[], by simp [owed]⟩
  | cons e events ih =>
    obtain ⟨first, hfirst, hf⟩ := publish_spied d s log e
    obtain ⟨rest, hrest, hr⟩ := ih (d.publish s e) (log ++ first)
    refine ⟨first ++ rest, ?_, ?_⟩
    · rw [List.foldl_cons, List.foldl_cons, hfirst, hrest, List.append_assoc]
    · rw [List.map_append, hf, hr]
      simp [owed]

theorem dispatch_spied (d : Dispatcher σ) (s : σ) (log : List HandlerCall) (frame : List UInt8) :
    ∃ calls, d.spied.dispatch ⟨s, log⟩ frame =
        (⟨(d.dispatch s frame).1, log ++ calls⟩, (d.dispatch s frame).2) ∧
      calls.map (fun c => (c.handler, c.event)) = d.owed (Frame.decode frame).events := by
  unfold dispatch
  -- the frame and decode-error counts are taken before any event, on the state alone
  by_cases h : (Frame.decode frame).errors.isEmpty <;>
  · simp only [h, Bool.false_eq_true, ↓reduceIte, tally_spied]
    obtain ⟨calls, hrun, hcalls⟩ := foldl_publish_spied d (Frame.decode frame).events _ log
    exact ⟨calls, by rw [hrun], hcalls⟩

end Dispatcher

/-- The counters of a logged state: `n` plus the failed calls of its log, and `k` events. -/
def Spied.Tracks (n k : Nat) (t : Spied σ) : Prop :=
  dispatchCounts t.state = (n + t.log.countP (·.failed), k)

section Counts

variable (hlaw : Metered.Lawful σ)
include hlaw

theorem counts_tally (s : σ) (f : Metrics → Metrics) :
    dispatchCounts (Metered.tally s f) =
      ((f (Metered.metrics s)).handlerErrors, (f (Metered.metrics s)).eventsDispatched) := by
  unfold dispatchCounts Metered.tally
  rw [hlaw s]

theorem Spied.Tracks.tally {n k : Nat} {t : Spied σ} (h : t.Tracks n k) {f : Metrics → Metrics}
    (hf : ∀ m, (f m).handlerErrors = m.handlerErrors ∧ (f m).eventsDispatched = m.eventsDispatched) :
    (Metered.tally t f).Tracks n k := by
  obtain ⟨s, log⟩ := t
  unfold Spied.Tracks at h ⊢
  rw [Dispatcher.tally_spied, counts_tally hlaw, (hf _).1, (hf _).2]
  exact h

/-- A logged call of a handler that keeps the counters counts one error exactly when it logs a
failure. -/
theorem Spied.Tracks.invoke {n k : Nat} {t : Spied σ} (h : t.Tracks n k) {e : Event}
    {r : Registration σ} (hr : ∀ s, dispatchCounts (r.handler s e).1 = dispatchCounts s)
    (i : Nat) : (Dispatcher.invoke e t (r.spy i)).Tracks n k := by
  obtain ⟨s, log⟩ := t
  have hs := hr s
  unfold Spied.Tracks at h ⊢
  rw [Dispatcher.invoke_spy]
  unfold Dispatcher.invoke
  rcases hh : r.handler s e with ⟨s', _ | _⟩ <;> rw [hh] at hs
  · -- a failed call is counted and logged as failed
    dsimp only
    rw [counts_tally hlaw]
    simp only [dispatchCounts, Prod.mk.injEq] at hs h ⊢
    simp [List.countP_append, Except.isOk, Except.toBool]
    omega
  · simp only [dispatchCounts, Prod.mk.injEq] at hs h ⊢
    simp [List.countP_append, Except.isOk, Except.toBool]
    omega

/-- Publishing an event counts it, and counts the failed calls it logs. -/
theorem Spied.Tracks.publish {n k : Nat} {t : Spied σ} (h : t.Tracks n k) {d : Dispatcher σ}
    (hd : d.KeepsCounts) (e : Event) : (d.spied.publish t e).Tracks n (k + 1) := by
  rw [Dispatcher.publish_eq, Dispatcher.spied_filter]
  refine Spied.Tracks.tally hlaw ?_ fun m => ⟨rfl, rfl⟩
  refine List.foldlRecOn _ _ ?_ fun u hu p hp => ?_
  · obtain ⟨s, log⟩ := t
    unfold Spied.Tracks at h ⊢
    rw [Dispatcher.tally_spied, counts_tally hlaw]
    simp only [dispatchCounts, Prod.mk.injEq] at h ⊢
    omega
  · obtain ⟨q, hq, rfl⟩ := List.mem_map.mp hp
    exact hu.invoke hlaw (hd q.1 (List.fst_mem_of_mem_zipIdx (List.mem_filter.mp hq).1) · e) q.2

theorem Spied.Tracks.foldl_publish {n k : Nat} {t : Spied σ} (h : t.Tracks n k)
    {d : Dispatcher σ} (hd : d.KeepsCounts) (events : List Event) :
    (events.foldl d.spied.publish t).Tracks n (k + events.length) := by
  induction events generalizing t k with
  | nil => exact h
  | cons e events ih =>
    rw [List.foldl_cons, List.length_cons, show k + (events.length + 1) = k + 1 + events.length by
      omega]
    exact ih (h.publish hlaw hd e)

theorem Spied.Tracks.dispatch {d : Dispatcher σ} (hd : d.KeepsCounts) (s : σ)
    (frame : List UInt8) :
    (d.spied.dispatch ⟨s, []⟩ frame).1.Tracks (dispatchCounts s).1
      ((dispatchCounts s).2 + (Frame.decode frame).events.length) := by
  have start : (⟨s, []⟩ : Spied σ).Tracks (dispatchCounts s).1 (dispatchCounts s).2 := by
    simp [Spied.Tracks]
  have framed := start.tally hlaw (f := fun m => { m with framesReceived := m.framesReceived + 1 })
    fun _ => ⟨rfl, rfl⟩
  unfold Dispatcher.dispatch
  by_cases h : (Frame.decode frame).errors.isEmpty <;> simp only [h, Bool.false_eq_true, ↓reduceIte]
  · exact framed.foldl_publish hlaw hd _
  · exact (framed.tally hlaw (f := fun m => { m with decodeErrors := m.decodeErrors + 1 })
      fun _ => ⟨rfl, rfl⟩).foldl_publish hlaw hd _

end Counts

/-- Fan-out is exact and isolated: the logged run is the plain run; it calls, for every
decoded event in order (decode errors or not), exactly the handlers of its kind, once each in
registration order; and handler errors grow by the failed calls, events by the decoded ones. -/
theorem dispatch_fans_out (d : Dispatcher σ) (s : σ) (frame : List UInt8) :
    let out := d.spied.dispatch ⟨s, []⟩ frame
    (out.1.state, out.2) = d.dispatch s frame ∧ out.2 = Frame.decode frame ∧
      out.1.log.map (fun c => (c.handler, c.event)) = d.owed (Frame.decode frame).events ∧
      (Metered.Lawful σ → d.KeepsCounts →
        dispatchCounts out.1.state = ((dispatchCounts s).1 + out.1.log.countP (·.failed),
          (dispatchCounts s).2 + (Frame.decode frame).events.length)) := by
  obtain ⟨calls, hrun, hcalls⟩ := Dispatcher.dispatch_spied d s [] frame
  intro out
  have hout : out = (⟨(d.dispatch s frame).1, calls⟩, Frame.decode frame) := hrun
  refine ⟨by rw [hout]; rfl, by rw [hout], by rw [hout]; exact hcalls, fun hlaw hd => ?_⟩
  exact Spied.Tracks.dispatch hlaw hd s frame

theorem recordingHandler_keepsCounts (spec : Command.HandlerSpec) (s : Metrics × List Json)
    (e : Event) : dispatchCounts (Command.recordingHandler spec s e).1 = dispatchCounts s := by
  unfold Command.recordingHandler
  split <;> rfl

/-- The isolation test's dispatcher: for execution reports a handler that stops and one that
fails, and one handler for price ticks; its counters follow the failed calls of the log. -/
theorem isolating_dispatch_counts :
    let d := ((({} : Dispatcher (Metrics × List Json)).register "order_update" "panics"
        (Command.recordingHandler ⟨"order_update", "panics", "panic", "boom"⟩)).register "order_update"
        "fails" (Command.recordingHandler ⟨"order_update", "fails", "error", "db down"⟩)).register
        "ticker" "ticker" (Command.recordingHandler ⟨"ticker", "ticker", "ok", ""⟩)
    let frame := Utf8.encode "\x7b\"e\":\"ORDER_TRADE_UPDATE\",\"E\":1,\"o\":\x7b\"s\":\"BTCUSDT\"\x7d\x7d"
    let out := d.spied.dispatch ⟨({}, []), []⟩ frame
    Metered.Lawful (Metrics × List Json) ∧ d.KeepsCounts ∧
      dispatchCounts out.1.state =
        (out.1.log.countP (·.failed), (Frame.decode frame).events.length) := by
  intro d frame out
  have hlaw : Metered.Lawful (Metrics × List Json) := fun _ _ => rfl
  have hd : d.KeepsCounts := by
    intro r hr
    simp only [d, Dispatcher.register, List.nil_append, List.cons_append, List.mem_cons,
      List.not_mem_nil, or_false] at hr
    rcases hr with rfl | rfl | rfl <;> exact recordingHandler_keepsCounts _
  have counted := (dispatch_fans_out d ({}, []) frame).2.2.2 hlaw hd
  rw [show dispatchCounts (({} : Metrics), ([] : List Json)) = (0, 0) from rfl, Nat.zero_add,
    Nat.zero_add] at counted
  exact ⟨hlaw, hd, counted⟩

end TradeLedger
