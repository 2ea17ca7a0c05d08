import TradeLedger.Command.NotifySteps
/-!
# What a notifier answers for, in any interleaving

A notifier's callers and its workers run at once. `Notify` holds the read lock through its call
and `Close` the write lock while it marks the notifier closed and closes the queue, so each is
one atomic step here (`Notifier.Sys.step`). A worker's receive, its delivery, and its exit once
the queue is closed and empty are steps of their own, and so is the return of a `Close`, which
waits until every worker has exited. Any interleaving of these steps is a run (`Sys.run`).

A notification is answered in every state, so a call never blocks; a closed notifier refuses it
and leaves the queue alone. Along every run the counters answer for the answers given: each
drop is counted once, and each accepted notification is queued, held by a worker, or counted as
sent or failed. Once a `Close` that closed the notifier returns, nothing waits, so the sent and
failed together count the accepted notifications. A `Close` that finds the notifier closed
returns at once, while workers may still deliver; nothing is said of it here. A nil notifier
refuses without counting (`nil_notifier_counts_nothing`).

## Main definitions

* `Notifier.Sys`: a notifier with its workers, the calls that closed it, and the answers given.
* `Notifier.Sys.step`, `Notifier.Sys.run`: one atomic step of some goroutine; an interleaving.
* `Notifier.Sys.Inv`: the accounting that every run keeps.

## Theorems

* `Notifier.Sys.Inv.step`, `Notifier.Sys.Inv.run`: a step, and so a run, keeps the accounting.
* `close_accounts_for_notifications`: every answer is accounted for, and once a closing call
  returns every accepted notification has been handed to the sink once.
-/

namespace TradeLedger

namespace Notifier

/-- A worker: waiting on the queue, delivering a notification it took, or gone. -/
inductive Worker where
  | idle
  | busy (note : Note)
  | gone

namespace Worker

/-- The notification a worker holds. -/
def held : Worker → List Note
  | .busy note => [note]
  | _ => []

def isGone : Worker → Bool
  | .gone => true
  | _ => false

end Worker

/-- The notifier's goroutines: its workers, the `Close` calls that closed it with whether each
returned, and each answer a `Notify` gave: whether it found the notifier closed, and whether it
accepted. -/
structure Sys where
  core : Notifier
  workers : List Worker
  closers : List Bool := []
  answers : List (Bool × Bool) := []

/-- One atomic step of some goroutine. -/
inductive Act where
  | notify (note : Note)
  /-- worker `w` receives from the queue -/
  | take (w : Nat)
  /-- worker `w` hands its notification to the sink -/
  | deliver (w : Nat)
  /-- worker `w` finds the queue closed and empty, and exits -/
  | exit (w : Nat)
  | close
  /-- closing call `c` returns, every worker having exited -/
  | finish (c : Nat)

namespace Sys

/-- A notifier's goroutines when it is made: its workers, idle. -/
def start (n : Notifier) : Sys := { core := n, workers := List.replicate n.workers .idle }

/-- A notification offered to the queue: refused when closed, queued when there is room, else
dropped and counted. -/
def offer (n : Notifier) (note : Note) : Notifier × Bool :=
  if n.closed then (n, false)
  else if n.queue.length < n.capacity then ({ n with queue := n.queue ++ [note] }, true)
  else ({ n with dropped := n.dropped + 1 }, false)

/-- The step of an action, when it is enabled. -/
def step (s : Sys) : Act → Option Sys
  | .notify note =>
    some { s with core := (offer s.core note).1,
                  answers := s.answers ++ [(s.core.closed, (offer s.core note).2)] }
  | .take w =>
    match s.workers[w]?, s.core.queue with
    | some .idle, note :: rest =>
      some { s with core := { s.core with queue := rest }, workers := s.workers.set w (.busy note) }
    | _, _ => none
  | .deliver w =>
    match s.workers[w]? with
    | some (.busy note) => some { s with core := s.core.deliver note, workers := s.workers.set w .idle }
    | _ => none
  | .exit w =>
    match s.workers[w]? with
    | some .idle =>
      if s.core.closed ∧ s.core.queue = [] then some { s with workers := s.workers.set w .gone }
      else none
    | _ => none
  | .close =>
    if s.core.closed then some s
    else some { s with core := { s.core with closed := true }, closers := s.closers ++ [false] }
  | .finish c =>
    if s.closers[c]? = some false ∧ s.workers.all Worker.isGone then
      some { s with closers := s.closers.set c true }
    else none

/-- Run the steps of an interleaving in turn; `none` when one of them is not enabled. -/
def run (s : Sys) : List Act → Option Sys
  | [] => some s
  | a :: rest => (s.step a).bind fun s' => s'.run rest

/-- Notifications accepted and not yet handed to the sink: queued, or held by a worker. -/
def waiting (s : Sys) : Nat := s.core.queue.length + (s.workers.flatMap Worker.held).length

/-- The accounting: a closed notifier accepted nothing, each drop is counted once, each accepted
notification waits or was counted sent or failed; a gone worker saw the queue closed and
empty, a closing call closed the notifier, one that returned saw every worker gone, and there
are workers. -/
structure Inv (s : Sys) : Prop where
  refused : ∀ a ∈ s.answers, a.1 = true → a.2 = false
  dropped : s.core.dropped = (s.answers.filter fun a => !a.1 && !a.2).length
  accepted : s.core.sent + s.core.failed + s.waiting = (s.answers.filter (·.2)).length
  gone : Worker.gone ∈ s.workers → s.core.closed = true ∧ s.core.queue = []
  closers : s.closers ≠ [] → s.core.closed = true
  returned : true ∈ s.closers → s.workers.all Worker.isGone = true
  some_worker : s.workers ≠ []

/-! ### One step -/

/-- A delivery counts one notification as sent or failed and changes nothing else counted. -/
theorem deliver_counts (n : Notifier) (note : Note) :
    (n.deliver note).sent + (n.deliver note).failed = n.sent + n.failed + 1 ∧
      (n.deliver note).queue = n.queue ∧ (n.deliver note).dropped = n.dropped ∧
      (n.deliver note).closed = n.closed := by
  unfold Notifier.deliver
  rcases n.sink.send n.log note with ⟨log, _ | _ | _⟩ <;> simp <;> omega

/-- Replacing worker `w`, which is `x`, by `y` trades what `x` holds for what `y` holds. -/
theorem held_set : ∀ {ws : List Worker} {w : Nat} {x y : Worker}, ws[w]? = some x →
    ((ws.set w y).flatMap Worker.held).length + x.held.length =
      (ws.flatMap Worker.held).length + y.held.length
  | [], _, _, _, h => by cases h
  | v :: ws, 0, x, y, h => by
    cases h
    simp only [List.set_cons_zero, List.flatMap_cons, List.length_append]
    omega
  | v :: ws, w + 1, x, y, h => by
    have h' : ws[w]? = some x := h
    have ih := held_set (y := y) h'
    simp only [List.set_cons_succ, List.flatMap_cons, List.length_append]
    omega

theorem gone_mem_set {ws : List Worker} {w : Nat} {y : Worker} (hy : y.isGone = false)
    (h : Worker.gone ∈ ws.set w y) : Worker.gone ∈ ws := by
  rcases List.mem_or_eq_of_mem_set h with h | h
  · exact h
  · rw [← h] at hy
    cases hy

theorem not_all_gone {ws : List Worker} {w : Nat} {x : Worker} (hx : ws[w]? = some x)
    (hgone : x.isGone = false) : ¬ws.all Worker.isGone = true := fun h => by
  rw [List.all_eq_true.mp h x (List.mem_of_getElem? hx)] at hgone
  cases hgone

variable {s s' : Sys}

theorem Inv.notify (h : Inv s) (note : Note) :
    Inv { s with core := (offer s.core note).1,
                 answers := s.answers ++ [(s.core.closed, (offer s.core note).2)] } := by
  obtain ⟨hrefused, hdropped, haccepted, hgone, hclosers, hreturned, hsome⟩ := h
  unfold offer
  split
  · -- a closed notifier refuses and changes nothing
    refine ⟨?_, ?_, ?_, hgone, hclosers, hreturned, hsome⟩ <;>
      simp_all [List.filter_append, waiting]
  split
  · refine ⟨?_, ?_, ?_, fun hw => ?_, fun hc => ?_, hreturned, hsome⟩
    · simp_all
    · simp_all [List.filter_append]
    · simp only [waiting, List.length_append, List.length_singleton, List.filter_append] at haccepted ⊢
      simp_all
      omega
    · simp_all
    · simp_all
  · refine ⟨?_, ?_, ?_, hgone, hclosers, hreturned, hsome⟩
    · simp_all
    · simp_all [List.filter_append]
    · simp_all [List.filter_append, waiting]

/-- Every step keeps the accounting. -/
theorem Inv.step (h : Inv s) : ∀ {a : Act}, s.step a = some s' → Inv s'
  | .notify note, hs => by
    cases hs
    exact h.notify note
  | .take w, hs => by
    simp only [Sys.step] at hs
    split at hs
    · rename_i note rest hw hq
      cases hs
      have hset := held_set (y := .busy note) hw
      -- the worker takes the head of a queue that is not empty, so no worker is gone yet
      have hnot : Worker.gone ∉ s.workers := fun hg => by simp [(h.gone hg).2] at hq
      refine ⟨h.refused, h.dropped, ?_, fun hg => absurd (gone_mem_set rfl hg) hnot, h.closers,
        fun hr => absurd (h.returned hr) (not_all_gone hw rfl), by simpa using h.some_worker⟩
      have ha := h.accepted
      simp only [waiting, hq, List.length_cons, Worker.held, List.length_nil] at ha hset ⊢
      omega
    · cases hs
  | .deliver w, hs => by
    simp only [Sys.step] at hs
    split at hs
    · rename_i note hw
      cases hs
      obtain ⟨hsent, hq, hd, hc⟩ := deliver_counts s.core note
      have hset := held_set (y := .idle) hw
      refine ⟨h.refused, hd.trans h.dropped, ?_, fun hg => ?_, fun hn => hc.trans (h.closers hn),
        fun hr => absurd (h.returned hr) (not_all_gone hw rfl), by simpa using h.some_worker⟩
      · have ha := h.accepted
        simp only [waiting, hq, Worker.held, List.length_singleton, List.length_nil] at ha hset ⊢
        omega
      · rw [hc, hq]
        exact h.gone (gone_mem_set rfl hg)
    · cases hs
  | .exit w, hs => by
    simp only [Sys.step] at hs
    split at hs
    · rename_i hw
      split at hs
      · rename_i hready
        cases hs
        have hset := held_set (y := .gone) hw
        refine ⟨h.refused, h.dropped, ?_, fun _ => hready, h.closers,
          fun hr => absurd (h.returned hr) (not_all_gone hw rfl), by simpa using h.some_worker⟩
        have ha := h.accepted
        simp only [waiting, Worker.held, List.length_nil] at ha hset ⊢
        omega
      · cases hs
    · cases hs
  | .close, hs => by
    simp only [Sys.step] at hs
    split at hs
    · cases hs
      exact h
    · cases hs
      exact ⟨h.refused, h.dropped, h.accepted, fun hg => ⟨rfl, (h.gone hg).2⟩, fun _ => rfl,
        fun hr => h.returned (by simpa using hr), h.some_worker⟩
  | .finish c, hs => by
    simp only [Sys.step] at hs
    split at hs
    · rename_i hready
      cases hs
      refine ⟨h.refused, h.dropped, h.accepted, h.gone, fun hn => h.closers ?_,
        fun _ => hready.2, h.some_worker⟩
      simpa using hn
    · cases hs

theorem Inv.run (h : Inv s) {acts : List Act} (hr : s.run acts = some s') : Inv s' := by
  induction acts generalizing s with
  | nil =>
    cases hr
    exact h
  | cons a rest ih =>
    simp only [Sys.run, Option.bind_eq_some_iff] at hr
    obtain ⟨s₁, h₁, hr⟩ := hr
    exact ih (h.step h₁) hr

theorem inv_start (queueSize workers : Int) (sink : Sink) (held : Bool) :
    Inv (start (new queueSize workers sink held)) where
  refused _ h := by cases h
  dropped := rfl
  accepted := by simp [start, new, waiting, Worker.held]
  gone h := by simp [start, new] at h
  closers h := absurd rfl h
  returned h := by cases h
  some_worker := by
    simp only [start, new, ne_eq, List.replicate_eq_nil_iff]
    split <;> omega

end Sys

end Notifier

open Notifier in
/-- In every interleaving of calls and workers on a notifier made by `new`: a notification is
answered in every state, and a closed notifier refuses it without touching the queue; a closed
notifier has accepted nothing and each drop is counted once; and once a closing call that closed
the notifier has returned, nothing is queued, and the sent and failed together count the
accepted notifications. -/
theorem close_accounts_for_notifications (queueSize workers : Int) (sink : Sink) (held : Bool)
    (acts : List Act) {s : Sys} (h : (Sys.start (new queueSize workers sink held)).run acts = some s) :
    (∀ note, s.core.closed = true →
      s.step (.notify note) = some { s with answers := s.answers ++ [(true, false)] }) ∧
      (∀ a ∈ s.answers, a.1 = true → a.2 = false) ∧
      s.core.dropped = (s.answers.filter fun a => !a.1 && !a.2).length ∧
      (true ∈ s.closers →
        s.core.queue = [] ∧ s.core.sent + s.core.failed = (s.answers.filter (·.2)).length) := by
  have hinv := (Sys.inv_start queueSize workers sink held).run h
  refine ⟨fun note hc => by simp [Sys.step, Sys.offer, hc], hinv.refused, hinv.dropped, fun hr => ?_⟩
  -- every worker is gone, and there is one, so the queue is closed and empty and no one holds
  have hall := List.all_eq_true.mp (hinv.returned hr)
  obtain ⟨w, hw⟩ := List.exists_mem_of_ne_nil _ hinv.some_worker
  have hgone : w = .gone := by
    have := hall w hw
    cases w <;> simp only [Worker.isGone, Bool.false_eq_true] at this ⊢
  obtain ⟨-, hq⟩ := hinv.gone (hgone ▸ hw)
  have hheld : s.workers.flatMap Worker.held = [] := by
    refine List.flatMap_eq_nil_iff.mpr fun x hx => ?_
    have := hall x hx
    cases x <;> simp only [Worker.isGone, Worker.held, Bool.false_eq_true] at this ⊢
  have ha := hinv.accepted
  simp only [Sys.waiting, hq, hheld, List.length_nil, Nat.add_zero] at ha
  exact ⟨hq, ha⟩

/-- A notifier with room for one and one worker, told twice and closed: the second notification
is dropped, the worker delivers the first, exits, and the closing call returns. -/
def drainRun : List Notifier.Act :=
  [.notify {}, .notify {}, .close, .take 0, .deliver 0, .exit 0, .finish 0]

theorem drained_notifier_accounts :
    ∃ s, (Notifier.Sys.start (Notifier.new 1 1 (.single .failing) false)).run drainRun = some s ∧
      s.answers = [(false, true), (false, false)] ∧ s.core.dropped = 1 ∧ s.core.failed = 1 ∧
      true ∈ s.closers ∧ s.core.queue = [] ∧ s.core.sent + s.core.failed = 1 :=
  ⟨_, rfl, rfl, rfl, rfl, by decide,
    ((close_accounts_for_notifications 1 1 (.single .failing) false drainRun rfl).2.2.2
      (by decide))⟩

/-- A nil notifier refuses a notification without counting it among the dropped. -/
theorem nil_notifier_counts_nothing :
    Command.notify (.obj [("nil", .bool true), ("note", .obj [("title", .str "t")])]) =
      .ok (.obj [("accepted", .bool false), ("stats", ({} : NotifyStats).toJson)]) := rfl

end TradeLedger
