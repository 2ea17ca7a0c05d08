import TradeLedger.Stream.Connection
import Mathlib.Data.List.Chain
/-!
# The lifecycle of a connection over whole runs

The reading loop of a connection dials, reads a socket until it ends, and reconnects after a
backoff, asking the lifecycle for a state at each step; errors in a row are counted, and one
more than the ceiling is fatal. A run is any sequence of turns, each against what the network
does with the dial, and of new listen keys. The errors in a row are counted apart, as ticks: a
refused dial, a missing target, a failed read and a frame failing before its socket's first
dispatched frame count one, that first frame clears the count, and a forced end ticks nothing.

## Main definitions

* `Tick`, `Outcome`: the ticks of a part of a turn, and the path of states it asked for.

## Theorems

* `readTurn_outcome`: one turn's outcome, composed from its parts.
* `loop_outcome`, `loop_lifecycle`: the states of any run follow the transition table, with
  live or gone outcomes.
-/

namespace TradeLedger

/-! ### Paths through the lifecycle -/

namespace StreamState

/-- `Follows s trail s'`: asking the lifecycle for the states of `trail` in turn, from `s`,
each move is allowed, and the last state reached is `s'`. -/
inductive Follows : StreamState → List StreamState → StreamState → Prop
  | nil (s : StreamState) : Follows s [] s
  | snoc {s m n : StreamState} {trail : List StreamState} :
      Follows s trail m → m.canTransition n = true → Follows s (trail ++ [n]) n

theorem Follows.trans {a b c : StreamState} {t₁ t₂ : List StreamState} (h₁ : Follows a t₁ b)
    (h₂ : Follows b t₂ c) : Follows a (t₁ ++ t₂) c := by
  induction h₂ with
  | nil => simpa using h₁
  | snoc _ hmove ih =>
    rw [← List.append_assoc]
    exact ih.snoc hmove

theorem Follows.isChain {a b : StreamState} {trail : List StreamState} (h : Follows a trail b) :
    List.IsChain (fun x y => x.canTransition y = true) (a :: trail) := by
  induction h with
  | nil => exact List.isChain_singleton a
  | @snoc m n trail hpath hmove ih =>
    -- the new move starts where the path so far ends
    have hlast : (a :: trail).getLast? = some m := by
      clear ih
      induction hpath with
      | nil => rfl
      | snoc _ _ _ =>
        rw [← List.cons_append]
        exact List.getLast?_concat ..
    rw [← List.cons_append, List.isChain_append]
    refine ⟨ih, List.isChain_singleton n, ?_⟩
    intro x hx y hy
    rw [hlast, Option.mem_some_iff] at hx
    simp only [List.head?_cons, Option.mem_some_iff] at hy
    subst hx hy
    exact hmove

end StreamState

/-! ### Counting errors -/

/-- What an event does to the errors in a row: count one more, or clear them. -/
inductive Tick where
  | count
  | reset
  deriving DecidableEq, Repr

namespace Tick

/-- The errors in a row after a tick. -/
def apply : Nat → Tick → Nat
  | n, .count => n + 1
  | _, .reset => 0

/-- The errors in a row after ticks, from `n`. -/
def run (n : Nat) (ticks : List Tick) : Nat := ticks.foldl apply n

/-- Whether the errors in a row, from `n`, pass `ceiling` at some tick. -/
def exceeds (ceiling : Int) : Nat → List Tick → Bool
  | _, [] => false
  | n, t :: ts => decide (ceiling < (apply n t : Int)) || exceeds ceiling (apply n t) ts

@[simp] theorem run_nil (n : Nat) : run n [] = n := rfl

@[simp] theorem run_cons (n : Nat) (t : Tick) (ts : List Tick) :
    run n (t :: ts) = run (apply n t) ts := rfl

theorem run_append (n : Nat) (a b : List Tick) : run n (a ++ b) = run (run n a) b := by
  simp [run, List.foldl_append]

@[simp] theorem exceeds_nil (ceiling : Int) (n : Nat) : exceeds ceiling n [] = false := rfl

@[simp] theorem exceeds_cons (ceiling : Int) (n : Nat) (t : Tick) (ts : List Tick) :
    exceeds ceiling n (t :: ts) =
      (decide (ceiling < (apply n t : Int)) || exceeds ceiling (apply n t) ts) := rfl

theorem exceeds_count (ceiling : Int) (n : Nat) :
    exceeds ceiling n [.count] = decide (ceiling < ((n + 1 : Nat) : Int)) :=
  Bool.or_false _

theorem exceeds_append (ceiling : Int) (n : Nat) (a b : List Tick) :
    exceeds ceiling n (a ++ b) = (exceeds ceiling n a || exceeds ceiling (run n a) b) := by
  induction a generalizing n with
  | nil => rfl
  | cons t ts ih => simp [ih, Bool.or_assoc]

end Tick

/-- The ticks of the frames of a live socket; `healthy` once one was dispatched. -/
def frameTicks : Bool → List (Except String Unit) → List Tick
  | _, [] => []
  | true, _ :: rest => frameTicks true rest
  | false, .ok () :: rest => .reset :: frameTicks true rest
  | false, .error _ :: rest => .count :: frameTicks false rest

/-- The ticks of one turn of the reading loop, when the connection has a target or not: a
refused dial or a missing target counts; a socket's frames tick as they are read, and a
failed read counts while a forced end does not. -/
def Session.ticks (reachable : Bool) : Session → List Tick
  | .refused => [.count]
  | .connects frames ending =>
    if reachable then
      frameTicks false frames ++
        match ending with
        | .readFails _ => [.count]
        | .forced => []
    else [.count]

/-! ### Live and gone connections -/

namespace Connection

/-- A connection whose reading loop runs: not fatal, not done, and no more errors in a row than
the ceiling allows. -/
structure Live (c : Connection) : Prop where
  fatal : c.fatal = none
  done : c.done = false
  within : (c.consecutiveErrors : Int) ≤ c.config.maxConsecutiveErrors

/-- A connection that gave up: its fatal error wraps the stream's fatal error, it is done and
closed, and it dials no more. -/
structure Gone (c : Connection) : Prop where
  fatal : ∃ msg, c.fatal = some ("stream fatal: " ++ msg)
  done : c.done = true
  closed : c.state = .closed
  noDial : c.nextDial = none

/-- Where a part of a turn leaves the connection, by the ticks it made from `n` errors in a row:
gone when the count passed the ceiling at some tick, else live in state `s` with the count the
ticks give. -/
def Settles (c : Connection) (n : Nat) (ticks : List Tick) (s : StreamState) : Prop :=
  if Tick.exceeds c.config.maxConsecutiveErrors n ticks then Gone c
  else Live c ∧ c.state = s ∧ c.consecutiveErrors = Tick.run n ticks

/-- The setup a turn reads: the configuration and the listen key. -/
def setup (c : Connection) : StreamConfig × Option ListenKeys := (c.config, c.keys)

theorem moveTo_of_canTransition {c : Connection} {s : StreamState}
    (h : c.state.canTransition s = true) : c.moveTo s = { c with state := s } := by
  simp [moveTo, StreamState.transition, h]

theorem request_of_canTransition {c : Connection} {s : StreamState} (trail : List StreamState)
    (h : c.state.canTransition s = true) :
    c.request trail s = ({ c with state := s }, trail ++ [s]) := by
  rw [request, moveTo_of_canTransition h]

theorem moveTo_closed (c : Connection) : c.moveTo .closed = { c with state := .closed } :=
  moveTo_of_canTransition (by simp [StreamState.canTransition])

theorem recordError_of_within {c : Connection} {err : String}
    (h : ((c.consecutiveErrors + 1 : Nat) : Int) ≤ c.config.maxConsecutiveErrors) :
    c.recordError err = { c with consecutiveErrors := c.consecutiveErrors + 1, lastError := err } := by
  simp only [recordError]
  rw [if_pos h]

theorem recordError_gone {c : Connection} (err : String)
    (h : c.config.maxConsecutiveErrors < ((c.consecutiveErrors + 1 : Nat) : Int)) :
    Gone (c.recordError err) ∧ (c.recordError err).setup = c.setup := by
  simp only [recordError]
  rw [if_neg (Int.not_le.2 h), moveTo_closed]
  refine ⟨⟨?_, rfl, rfl, rfl⟩, rfl⟩
  simp only [String.append_assoc]
  exact ⟨_, rfl⟩

/-- How a part of a turn ends, from a connection with setup `σ` whose trail so far starts at
`s₀`: the trail is a path of allowed moves from `s₀` to the state reached, the setup is kept,
and the ticks from `n` errors in a row settle the connection in `s`. -/
structure Outcome (σ : StreamConfig × Option ListenKeys) (s₀ : StreamState) (n : Nat)
    (ticks : List Tick) (s : StreamState) (r : Connection × List StreamState) : Prop where
  path : StreamState.Follows s₀ r.2 r.1.state
  setup : r.1.setup = σ
  settles : r.1.Settles n ticks s

namespace Outcome

variable {σ : StreamConfig × Option ListenKeys} {s₀ s s' : StreamState} {n : Nat}
  {a b : List Tick} {r r' : Connection × List StreamState}

theorem config_eq (h : Outcome σ s₀ n a s r) : r.1.config = σ.1 := congrArg Prod.fst h.setup

theorem gone (h : Outcome σ s₀ n a s r) (hx : Tick.exceeds σ.1.maxConsecutiveErrors n a = true) :
    Gone r.1 := by
  have hs := h.settles
  rwa [Settles, h.config_eq, if_pos hx] at hs

theorem live (h : Outcome σ s₀ n a s r)
    (hx : Tick.exceeds σ.1.maxConsecutiveErrors n a = false) :
    Live r.1 ∧ r.1.state = s ∧ r.1.consecutiveErrors = Tick.run n a := by
  have hs := h.settles
  rwa [Settles, h.config_eq, if_neg (by simp [hx])] at hs

/-- Once gone, the rest of a turn adds ticks but changes nothing. -/
theorem extend_gone (h : Outcome σ s₀ n a s r)
    (hx : Tick.exceeds σ.1.maxConsecutiveErrors n a = true) (b : List Tick) (s' : StreamState) :
    Outcome σ s₀ n (a ++ b) s' r := by
  refine ⟨h.path, h.setup, ?_⟩
  rw [Settles, h.config_eq, Tick.exceeds_append, hx, Bool.true_or, if_pos rfl]
  exact h.gone hx

/-- The rest of a turn after a part that did not pass the ceiling, counted on from where the
part left the errors in a row. -/
theorem append (hx : Tick.exceeds σ.1.maxConsecutiveErrors n a = false)
    (h' : Outcome σ s₀ (Tick.run n a) b s' r') : Outcome σ s₀ n (a ++ b) s' r' := by
  refine ⟨h'.path, h'.setup, ?_⟩
  have hs := h'.settles
  rw [Settles, h'.config_eq] at hs ⊢
  rw [Tick.exceeds_append, hx, Bool.false_or, Tick.run_append]
  exact hs

end Outcome

section Phases

variable {c : Connection} {s₀ : StreamState} {trail : List StreamState}

theorem countError_outcome (hlive : Live c) (hpath : StreamState.Follows s₀ trail c.state)
    (err : String) :
    Outcome c.setup s₀ c.consecutiveErrors [.count] c.state (c.countError trail err) := by
  by_cases h : c.config.maxConsecutiveErrors < ((c.consecutiveErrors + 1 : Nat) : Int)
  · -- past the ceiling: the connection gives up, closing
    obtain ⟨hgone, hsetup⟩ := recordError_gone err h
    have hr : c.countError trail err = (c.recordError err, trail ++ [.closed]) := by
      simp only [countError, h, decide_true, if_true]
    rw [hr]
    refine ⟨?_, hsetup, ?_⟩
    · rw [hgone.closed]
      exact hpath.snoc (by simp [StreamState.canTransition])
    · have hconfig : (c.recordError err).config = c.config := congrArg Prod.fst hsetup
      rw [Settles, hconfig, Tick.exceeds_count, decide_eq_true h, if_pos rfl]
      exact hgone
  · have hle := Int.not_lt.1 h
    have hr : c.countError trail err =
        ({ c with consecutiveErrors := c.consecutiveErrors + 1, lastError := err }, trail) := by
      simp only [countError, h, decide_false, Bool.false_eq_true, if_false,
        recordError_of_within hle]
    rw [hr]
    refine ⟨hpath, rfl, ?_⟩
    rw [Settles, Tick.exceeds_count, decide_eq_false h, if_neg Bool.false_ne_true]
    exact ⟨⟨hlive.fatal, hlive.done, hle⟩, rfl, rfl⟩

/-- Reconnecting after a failure or a forced close: a gone connection stays as it is, a live
one moves to reconnecting and waits out its next backoff. -/
theorem rearm_outcome {σ : StreamConfig × Option ListenKeys} {n : Nat} {ticks : List Tick}
    {s : StreamState} {r : Connection × List StreamState} (h : Outcome σ s₀ n ticks s r)
    (hs : s.canTransition .reconnecting = true) :
    Outcome σ s₀ n ticks .reconnecting (r.1.rearm r.2) := by
  obtain ⟨hpath, hsetup, hsettles⟩ := h
  unfold Settles at hsettles
  split at hsettles
  · next hx =>
    -- gone: nothing more happens
    obtain ⟨msg, hfatal⟩ := hsettles.fatal
    have hr : r.1.rearm r.2 = r := by simp [rearm, hfatal]
    rw [hr]
    refine ⟨hpath, hsetup, ?_⟩
    rw [Settles, if_pos hx]
    exact hsettles
  · next hx =>
    obtain ⟨hlive, hstate, hcount⟩ := hsettles
    have hmove : r.1.state.canTransition .reconnecting = true := hstate ▸ hs
    simp only [rearm, hlive.fatal, Option.isSome_none, Bool.false_eq_true, if_false,
      request_of_canTransition r.2 hmove]
    refine ⟨hpath.snoc hmove, hsetup, ?_⟩
    rw [Settles, if_neg hx]
    exact ⟨⟨rfl, hlive.done, hlive.within⟩, rfl, hcount⟩

theorem failTurn_outcome (hlive : Live c) (hpath : StreamState.Follows s₀ trail c.state)
    (hs : c.state.canTransition .faulted = true) (err : String) :
    Outcome c.setup s₀ c.consecutiveErrors [.count] .reconnecting (c.failTurn trail err) := by
  unfold failTurn
  rw [request_of_canTransition trail hs]
  -- in error the failure is counted, and from error the connection may reconnect
  have hcount := countError_outcome (c := { c with state := .faulted })
    ⟨hlive.fatal, hlive.done, hlive.within⟩ (hpath.snoc hs) err
  exact rearm_outcome hcount rfl

/-- Nothing happens: no ticks, and the connection stays where it is. -/
theorem stay_outcome (hlive : Live c) (hpath : StreamState.Follows s₀ trail c.state) :
    Outcome c.setup s₀ c.consecutiveErrors [] c.state (c, trail) := by
  refine ⟨hpath, rfl, ?_⟩
  rw [Settles, Tick.exceeds_nil, if_neg Bool.false_ne_true]
  exact ⟨hlive, rfl, rfl⟩

/-- Reading a live socket's frames, by induction on the frames as the reading takes them. -/
theorem consume_outcome :
    ∀ (frames : List (Except String Unit)) (healthy : Bool) (c : Connection)
      (trail : List StreamState), Live c → c.state = .connected →
      StreamState.Follows s₀ trail c.state →
      Outcome c.setup s₀ c.consecutiveErrors (frameTicks healthy frames) .connected
        (c.consume trail healthy frames)
  | [], _, c, trail, hlive, hstate, hpath => hstate ▸ stay_outcome hlive hpath
  | _ :: rest, true, c, trail, hlive, hstate, hpath =>
    consume_outcome rest true c trail hlive hstate hpath
  | .ok () :: rest, false, c, trail, hlive, hstate, hpath => by
    -- the first dispatched frame clears the errors in a row
    have hceiling : (0 : Int) ≤ c.config.maxConsecutiveErrors :=
      Int.le_trans (Int.natCast_nonneg _) hlive.within
    have hcleared := consume_outcome rest true { c with consecutiveErrors := 0 } trail
      ⟨hlive.fatal, hlive.done, hceiling⟩ hstate hpath
    have hx : Tick.exceeds c.config.maxConsecutiveErrors c.consecutiveErrors [.reset] = false := by
      simp only [Tick.exceeds_cons, Tick.apply, Tick.exceeds_nil, Bool.or_false]
      exact decide_eq_false (Int.not_lt.2 hceiling)
    exact Outcome.append (a := [.reset]) hx hcleared
  | .error e :: rest, false, c, trail, hlive, hstate, hpath => by
    have hcount := countError_outcome hlive hpath ("decode " ++ c.config.name ++ ": " ++ e)
    simp only [consume, frameTicks]
    generalize c.countError trail ("decode " ++ c.config.name ++ ": " ++ e) = r at hcount ⊢
    obtain ⟨c₁, trail₁⟩ := r
    cases hx : Tick.exceeds c.config.maxConsecutiveErrors c.consecutiveErrors [.count]
    · -- still live: read on, counting from one more error
      obtain ⟨hlive₁, hstate₁, hcount₁⟩ := hcount.live hx
      have hfatal₁ : c₁.fatal = none := hlive₁.fatal
      simp only [hfatal₁, Option.isSome_none, Bool.false_eq_true, if_false]
      have hsetup : c₁.setup = c.setup := hcount.setup
      have hrest := consume_outcome rest false c₁ trail₁ hlive₁ (hstate₁.trans hstate)
        hcount.path
      rw [hsetup, hcount₁] at hrest
      exact Outcome.append (a := [.count]) hx hrest
    · -- past the ceiling: the reading stops
      have hgone := hcount.gone hx
      obtain ⟨msg, hfatal⟩ := hgone.fatal
      have hfatal₁ : c₁.fatal = some ("stream fatal: " ++ msg) := hfatal
      simp only [hfatal₁, Option.isSome_some, if_true]
      exact hcount.extend_gone hx _ _

/-- An allowed move of a live connection ticks nothing. -/
theorem request_outcome (hlive : Live c) (hpath : StreamState.Follows s₀ trail c.state)
    {s : StreamState} (hs : c.state.canTransition s = true) :
    Outcome c.setup s₀ c.consecutiveErrors [] s (c.request trail s) := by
  rw [request_of_canTransition trail hs]
  exact stay_outcome (c := { c with state := s }) ⟨hlive.fatal, hlive.done, hlive.within⟩
    (hpath.snoc hs)

/-- One turn of the reading loop, from a connection that has not connected yet or waits to
reconnect: it ends gone or waiting to reconnect, as its ticks say. -/
theorem readTurn_outcome (hlive : Live c)
    (hready : c.state = .disconnected ∨ c.state = .reconnecting) (s : Session) :
    Outcome c.setup c.state c.consecutiveErrors (s.ticks c.target.isOk) .reconnecting
      (c.readTurn s) := by
  have hconnecting : c.state.canTransition .connecting = true := by
    rcases hready with h | h <;> rw [h] <;> rfl
  have hlive₁ : Live { c with state := .connecting, attempts := c.attempts + 1 } :=
    ⟨hlive.fatal, hlive.done, hlive.within⟩
  have hpath₁ : StreamState.Follows c.state [.connecting] .connecting :=
    (StreamState.Follows.nil _).snoc hconnecting
  unfold readTurn
  rw [StreamState.transition, if_pos hconnecting]
  dsimp only
  cases s with
  | refused =>
    -- a refused dial: one error
    exact failTurn_outcome hlive₁ hpath₁ rfl _
  | connects frames ending =>
    have htarget : ({ c with state := .connecting, attempts := c.attempts + 1 } : Connection).target =
        c.target := rfl
    rw [htarget]
    cases ht : c.target with
    | error e =>
      -- no target: one error
      exact failTurn_outcome hlive₁ hpath₁ rfl _
    | ok t =>
      -- the dial connects: the dial count and the backoff start over, and the socket is read
      rw [StreamState.transition,
        if_pos (show StreamState.connecting.canTransition .connected = true from rfl)]
      dsimp only
      set c₂ : Connection := { c with
        state := .connected, attempts := 0, nextDelay := 0, backoff := Backoff.ofConfig c.config }
      have hcons := consume_outcome frames false c₂ [.connecting, .connected]
        ⟨hlive.fatal, hlive.done, hlive.within⟩ rfl (hpath₁.snoc rfl)
      generalize c₂.consume [.connecting, .connected] false frames = r at hcons ⊢
      obtain ⟨c₃, t₃⟩ := r
      have hticks : (Session.connects frames ending).ticks (Except.ok t : Except String String).isOk =
          frameTicks false frames ++
            match ending with
            | .readFails _ => [.count]
            | .forced => [] := rfl
      rw [hticks]
      cases hx : Tick.exceeds c.config.maxConsecutiveErrors c.consecutiveErrors
        (frameTicks false frames)
      · -- live after the frames: the socket's end decides
        obtain ⟨hlive₃, hstate₃, hcount₃⟩ := hcons.live hx
        have hfatal₃ : c₃.fatal = none := hlive₃.fatal
        have hstate₃ : c₃.state = .connected := hstate₃
        have hsetup₃ : c₃.setup = c.setup := hcons.setup
        have hcount₃ : c₃.consecutiveErrors =
            Tick.run c.consecutiveErrors (frameTicks false frames) := hcount₃
        simp only [hfatal₃, Option.isSome_none, Bool.false_eq_true, if_false]
        cases ending with
        | forced =>
          -- a forced end closes and reconnects without counting
          have hclose := request_outcome hlive₃ hcons.path (s := .closed) (by rw [hstate₃]; rfl)
          have hrearm := rearm_outcome hclose rfl
          rw [hsetup₃, hcount₃] at hrearm
          exact Outcome.append hx hrearm
        | readFails err =>
          have hfail := failTurn_outcome hlive₃ hcons.path (by rw [hstate₃]; rfl)
            ("read " ++ c₃.config.name ++ ": " ++ err)
          rw [hsetup₃, hcount₃] at hfail
          exact Outcome.append hx hfail
      · -- gone while reading: the reading loop ends
        obtain ⟨msg, hfatal⟩ := (hcons.gone hx).fatal
        have hfatal₃ : c₃.fatal = some ("stream fatal: " ++ msg) := hfatal
        simp only [hfatal₃, Option.isSome_some, if_true]
        exact hcons.extend_gone hx _ _

end Phases

/-! ### Runs of the reading loop -/

/-- What happens to a running connection: a turn of its reading loop, against what the network
does with the dial, or a new listen key from its key loop. -/
inductive LoopEvent where
  | turn (s : Session)
  | rekey (k : ListenKeys)

/-- The connection with the key loop's new listen key, when it is private. -/
def rekeyed (c : Connection) (k : ListenKeys) : Connection :=
  { c with keys := c.keys.map fun _ => k }

/-- The connection after events, with the states its reading loop asked the lifecycle for. Once
the connection is done nothing more happens: the reading loop has ended. -/
def loop : Connection → List LoopEvent → Connection × List StreamState
  | c, [] => (c, [])
  | c, ev :: rest =>
    if c.done then (c, [])
    else
      match ev with
      | .turn s =>
        let (c, trail) := c.readTurn s
        let (c, more) := c.loop rest
        (c, trail ++ more)
      | .rekey k => (c.rekeyed k).loop rest

theorem loop_of_done {c : Connection} (h : c.done = true) (evs : List LoopEvent) :
    c.loop evs = (c, []) := by
  cases evs with
  | nil => rfl
  | cons ev rest => simp [loop, h]

/-- The ticks of the events' turns, each with the target the connection has at that turn. -/
def runTicks : Connection → List LoopEvent → List Tick
  | _, [] => []
  | c, .turn s :: rest => s.ticks c.target.isOk ++ c.runTicks rest
  | c, .rekey k :: rest => (c.rekeyed k).runTicks rest

theorem target_of_setup {c c' : Connection} (h : c.setup = c'.setup) : c.target = c'.target := by
  obtain ⟨hconfig, hkeys⟩ := Prod.mk.inj h
  simp only [target, hconfig, hkeys]

/-- The ticks read only the setup. -/
theorem runTicks_of_setup :
    ∀ (evs : List LoopEvent) (c c' : Connection), c.setup = c'.setup →
      c.runTicks evs = c'.runTicks evs
  | [], _, _, _ => rfl
  | .turn s :: rest, c, c', h => by
    simp only [runTicks, target_of_setup h, runTicks_of_setup rest c c' h]
  | .rekey k :: rest, c, c', h => by
    obtain ⟨hconfig, hkeys⟩ := Prod.mk.inj h
    exact runTicks_of_setup rest (c.rekeyed k) (c'.rekeyed k)
      (by simp only [setup, rekeyed, hconfig, hkeys])

/-- A whole run from a connection that has not connected yet or waits to reconnect, by
induction on the events: its reading loop asks only for allowed moves, and it ends gone or live
as its ticks say. -/
theorem loop_outcome :
    ∀ (evs : List LoopEvent) (c : Connection), Live c →
      (c.state = .disconnected ∨ c.state = .reconnecting) →
      StreamState.Follows c.state (c.loop evs).2 (c.loop evs).1.state ∧
      (c.loop evs).1.config = c.config ∧
      if Tick.exceeds c.config.maxConsecutiveErrors c.consecutiveErrors (c.runTicks evs) then
        Gone (c.loop evs).1
      else Live (c.loop evs).1
  | [], c, hlive, _ => by
    refine ⟨.nil _, rfl, ?_⟩
    rw [runTicks, Tick.exceeds_nil, if_neg Bool.false_ne_true]
    exact hlive
  | .turn s :: rest, c, hlive, hready => by
    have hturn := readTurn_outcome hlive hready s
    simp only [loop, hlive.done, Bool.false_eq_true, if_false, runTicks]
    generalize c.readTurn s = r at hturn ⊢
    obtain ⟨c₁, t₁⟩ := r
    have hsetup₁ : c₁.setup = c.setup := hturn.setup
    cases hx : Tick.exceeds c.config.maxConsecutiveErrors c.consecutiveErrors
      (s.ticks c.target.isOk)
    · -- the turn left it waiting to reconnect: the rest of the run goes on from there
      obtain ⟨hlive₁, hstate₁, hcount₁⟩ := hturn.live hx
      have hstate₁ : c₁.state = .reconnecting := hstate₁
      have hconfig₁ : c₁.config = c.config := congrArg Prod.fst hsetup₁
      obtain ⟨hpath, hconfig, hrest⟩ := loop_outcome rest c₁ hlive₁ (.inr hstate₁)
      refine ⟨hturn.path.trans (hstate₁ ▸ hpath), hconfig.trans hconfig₁, ?_⟩
      rw [Tick.exceeds_append, hx, Bool.false_or, ← runTicks_of_setup rest _ _ hsetup₁,
        ← hconfig₁, ← hcount₁]
      exact hrest
    · -- the turn gave up: the reading loop has ended
      have hgone := hturn.gone hx
      rw [loop_of_done hgone.done, List.append_nil]
      refine ⟨hturn.path, congrArg Prod.fst hsetup₁, ?_⟩
      rw [Tick.exceeds_append, hx, Bool.true_or, if_pos rfl]
      exact hgone
  | .rekey k :: rest, c, hlive, hready => by
    simp only [loop, hlive.done, Bool.false_eq_true, if_false, runTicks]
    exact loop_outcome rest (c.rekeyed k) ⟨hlive.fatal, hlive.done, hlive.within⟩ hready

/-- The lifecycle of a connection over a whole run. From a live connection about to dial (not
connected yet, or waiting to reconnect), through any turns (refused dials, a missing listen key,
sockets whose frames dispatch or fail to decode, failed reads, forced ends) and new listen keys:
every state the reading loop asks for is an allowed move from the one before; the connection
turns fatal exactly when the errors in a row pass the ceiling at some tick (a refused dial, a
missing target, a failed read, or a frame failing before its socket's first dispatched frame,
which clears the count); and a fatal connection is closed, done, dials no more, and its error
wraps the stream's fatal error. -/
theorem loop_lifecycle (c : Connection) (hlive : c.Live)
    (hready : c.state = .disconnected ∨ c.state = .reconnecting) (evs : List LoopEvent) :
    List.IsChain (fun a b => a.canTransition b = true) (c.state :: (c.loop evs).2) ∧
    (c.loop evs).1.fatal.isSome =
      Tick.exceeds c.config.maxConsecutiveErrors c.consecutiveErrors (c.runTicks evs) ∧
    ((c.loop evs).1.fatal.isSome = true → (c.loop evs).1.Gone) := by
  obtain ⟨hpath, -, hend⟩ := loop_outcome evs c hlive hready
  refine ⟨hpath.isChain, ?_, ?_⟩
  · split at hend
    · next hx =>
      obtain ⟨msg, hfatal⟩ := hend.fatal
      rw [hfatal, hx]
      rfl
    · next hx =>
      rw [Bool.not_eq_true] at hx
      rw [hend.fatal, hx]
      rfl
  · intro hfatal
    split at hend
    · exact hend
    · rw [hend.fatal] at hfatal
      cases hfatal

end Connection

/-- A public connection allowed one error in a row. -/
def flakyConnection : Connection := Connection.create { maxConsecutiveErrors := 1 } none

/-- A refused dial, then a socket whose first frame fails to decode before one is dispatched,
which passes the ceiling. -/
def flakyRun : List Connection.LoopEvent :=
  [.turn .refused, .turn (.connects [.error "bad frame", .ok ()] .forced)]

theorem flaky_connection_lifecycle :
    flakyConnection.Live ∧
    (flakyConnection.state = .disconnected ∨ flakyConnection.state = .reconnecting) ∧
    (List.IsChain (fun a b => a.canTransition b = true)
        (flakyConnection.state :: (flakyConnection.loop flakyRun).2) ∧
      (flakyConnection.loop flakyRun).1.fatal.isSome =
        Tick.exceeds flakyConnection.config.maxConsecutiveErrors
          flakyConnection.consecutiveErrors (flakyConnection.runTicks flakyRun) ∧
      ((flakyConnection.loop flakyRun).1.fatal.isSome = true →
        (flakyConnection.loop flakyRun).1.Gone)) :=
  ⟨⟨rfl, rfl, by decide⟩, .inl rfl,
    Connection.loop_lifecycle flakyConnection ⟨rfl, rfl, by decide⟩ (.inl rfl) flakyRun⟩

end TradeLedger
