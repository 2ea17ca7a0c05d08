import TradeLedger.Ledger.Desk
/-!
# Running desk steps

`Desk.exec` runs a desk step: an answer or a failure, with the desk it leaves. Each way a step
is built and each desk primitive gets one equation, so later proofs follow a service call by
call without unfolding the monad.

Most facts about the services say that the desk a step leaves is related to the one it started
from by a preorder, whatever the step answers. `Desk.Keeps R x` says this of a step. Once `R`
is a `Desk.Frame`, a preorder that holds across everything outside the store and the snapshot
cache, it passes through binds, failure handling and loops, so a service keeps `R` as soon as
each of its store calls does.

## Main definitions

* `Desk.exec`: the answer and the desk of a step.
* `Desk.Frame`, `Desk.Keeps`: preorders the steps keep.

## Theorems

* `Desk.exec_bind`, `Desk.exec_tryCatch`, `Desk.exec_read`: equations of steps.
* `Desk.Frame.keeps_bind`, `Desk.Frame.keeps_foldlM`: `Keeps` through binds and loops.
* `Desk.Frame.keeps_change`: a store call that keeps `R`.
-/

namespace TradeLedger

namespace Desk

/-- A step run on a desk: its answer or failure, and the desk it leaves. -/
def exec {α : Type} (x : DeskM α) (d : Desk) : Except Fault α × Desk := (x.run).run d

/-- The desk with a trader's cached snapshot dropped, as `invalidate` leaves it. -/
def drop (d : Desk) (trader : String) : Desk :=
  { d with snapshots := d.snapshots.filter (·.1 != trader), invalidated := d.invalidated ++ [trader] }

variable {α β : Type} {d d' : Desk} {x : DeskM α}

section Equations

@[simp] theorem exec_pure (a : α) (d : Desk) : exec (pure a) d = (.ok a, d) := rfl

@[simp] theorem exec_throw (f : Fault) (d : Desk) : exec (throw f : DeskM α) d = (.error f, d) :=
  rfl

@[simp] theorem exec_get (d : Desk) : exec (get : DeskM Desk) d = (.ok d, d) := rfl

@[simp] theorem exec_set (d d' : Desk) : exec (set d' : DeskM PUnit) d = (.ok ⟨⟩, d') := rfl

@[simp] theorem exec_modify (f : Desk → Desk) (d : Desk) :
    exec (modify f : DeskM PUnit) d = (.ok ⟨⟩, f d) := rfl

theorem exec_bind (x : DeskM α) (f : α → DeskM β) (d : Desk) :
    exec (x >>= f) d = match exec x d with
      | (.ok a, d') => exec (f a) d'
      | (.error e, d') => (.error e, d') := by
  simp only [exec, ExceptT.run_bind, StateT.run_bind]
  rcases (x.run).run d with ⟨_ | _, d'⟩ <;> rfl

theorem exec_map (f : α → β) (x : DeskM α) (d : Desk) :
    exec (f <$> x) d = match exec x d with
      | (.ok a, d') => (.ok (f a), d')
      | (.error e, d') => (.error e, d') := by
  simp only [exec, ExceptT.run_map, StateT.run_map]
  rcases (x.run).run d with ⟨_ | _, d'⟩ <;> rfl

theorem exec_tryCatch (x : DeskM α) (h : Fault → DeskM α) (d : Desk) :
    exec (tryCatch x h) d = match exec x d with
      | (.ok a, d') => (.ok a, d')
      | (.error e, d') => exec (h e) d' := by
  simp only [exec, tryCatch, tryCatchThe, MonadExceptOf.tryCatch, ExceptT.tryCatch, ExceptT.run_mk,
    StateT.run_bind]
  -- the handler's `bind` is the state monad's, which matches on the run of `x` only once it is
  -- known to be a pair
  rcases hx : (x.run).run d with ⟨_ | _, d'⟩ <;>
  · have hx' : StateT.run x d = _ := hx
    rw [hx']
    rfl

/-- A step that ran to an answer: what its first part answered, and where it left the desk. -/
theorem exec_bind_ok {f : α → DeskM β} {d d'' : Desk} {b : β}
    (h : exec (x >>= f) d = (.ok b, d'')) :
    ∃ a d', exec x d = (.ok a, d') ∧ exec (f a) d' = (.ok b, d'') := by
  rw [exec_bind] at h
  rcases hx : exec x d with ⟨_ | a, d'⟩
  · rw [hx] at h
    cases h
  · rw [hx] at h
    exact ⟨a, d', rfl, h⟩

@[simp] theorem exec_clock (d : Desk) : exec clock d = (.ok d.now, d) := rfl

@[simp] theorem exec_tally (f : Metrics → Metrics) (d : Desk) :
    exec (tally f) d = (.ok (), { d with metrics := f d.metrics }) := rfl

@[simp] theorem exec_invalidate (trader : String) (d : Desk) :
    exec (invalidate trader) d = (.ok (), d.drop trader) := rfl

theorem exec_staged (m : StoreMethod) (d : Desk) :
    exec (staged m) d = match (d.plan.trip m).2 with
      | some f => (.error f, { d with plan := (d.plan.trip m).1 })
      | none => (.ok (), { d with plan := (d.plan.trip m).1 }) := by
  simp only [staged, exec_bind, exec_get, exec_set]
  rcases (d.plan.trip m).2 <;> rfl

theorem exec_read (m : StoreMethod) (op : Store → Except Fault α) (d : Desk) :
    exec (read m op) d = match (d.plan.trip m).2, op d.store with
      | some f, _ => (.error f, { d with plan := (d.plan.trip m).1 })
      | none, .ok a => (.ok a, { d with plan := (d.plan.trip m).1 })
      | none, .error f => (.error f, { d with plan := (d.plan.trip m).1 }) := by
  simp only [read, exec_bind, exec_staged]
  rcases (d.plan.trip m).2 with _ | f
  · simp only [exec_get]
    rcases op d.store <;> rfl
  · rfl

theorem exec_write (m : StoreMethod) (op : Store → Except Fault (α × Store)) (d : Desk) :
    exec (write m op) d = match (d.plan.trip m).2, op d.store with
      | some f, _ => (.error f, { d with plan := (d.plan.trip m).1 })
      | none, .ok (a, s) => (.ok a, { d with plan := (d.plan.trip m).1, store := s })
      | none, .error f => (.error f, { d with plan := (d.plan.trip m).1 }) := by
  simp only [write, exec_bind, exec_staged]
  rcases (d.plan.trip m).2 with _ | f
  · simp only [exec_get]
    rcases op d.store with _ | ⟨a, s⟩ <;> rfl
  · rfl

theorem exec_change (m : StoreMethod) (op : Store → Except Fault Store) (d : Desk) :
    exec (change m op) d = match (d.plan.trip m).2, op d.store with
      | some f, _ => (.error f, { d with plan := (d.plan.trip m).1 })
      | none, .ok s => (.ok (), { d with plan := (d.plan.trip m).1, store := s })
      | none, .error f => (.error f, { d with plan := (d.plan.trip m).1 }) := by
  simp only [change, exec_write]
  rcases (d.plan.trip m).2 with _ | f
  · rcases op d.store <;> rfl
  · rfl

@[simp] theorem exec_exact (e : Exact α) (d : Desk) :
    exec (exact e) d = match e with
      | .ok a => (.ok a, d)
      | .error m => (.error (Fault.panic m), d) := by
  cases e <;> rfl

theorem exec_exact_ok {e : Exact α} {a : α} (h : exec (exact e) d = (.ok a, d')) :
    e = .ok a ∧ d' = d := by
  cases e
  · cases h
  · cases h
    exact ⟨rfl, rfl⟩

theorem exec_within (context : String) (x : DeskM α) (d : Desk) :
    exec (within context x) d = match exec x d with
      | (.ok a, d') => (.ok a, d')
      | (.error e, d') => (.error (e.wrap context), d') := by
  simp only [within, exec_tryCatch]
  rcases exec x d with ⟨_ | _, d'⟩ <;> rfl

theorem exec_attempt (x : DeskM α) (d : Desk) :
    exec (attempt x) d = match exec x d with
      | (.ok a, d') => (.ok (.ok a), d')
      | (.error e, d') => if e.kind == .panic then (.error e, d') else (.ok (.error e), d') := by
  simp only [attempt, exec_tryCatch, exec_map]
  rcases exec x d with ⟨_ | _, d'⟩
  · simp only [apply_ite (fun x : DeskM (Except Fault α) => exec x d'), exec_throw, exec_pure]
  · rfl

theorem exec_ignoring (x : DeskM Unit) (d : Desk) :
    exec (ignoring x) d = match exec x d with
      | (.ok a, d') => (.ok a, d')
      | (.error e, d') => if e.kind == .panic then (.error e, d') else (.ok (), d') := by
  simp only [ignoring, exec_tryCatch]
  rcases exec x d with ⟨_ | _, d'⟩
  · simp only [apply_ite (fun x : DeskM Unit => exec x d'), exec_throw, exec_pure]
  · rfl

theorem exec_within_ok {context : String} {a : α}
    (h : exec (within context x) d = (.ok a, d')) : exec x d = (.ok a, d') := by
  rw [exec_within] at h
  rcases hx : exec x d with ⟨_ | _, d₁⟩ <;> rw [hx] at h <;> cases h
  rfl

theorem exec_read_ok {m : StoreMethod} {op : Store → Except Fault α} {a : α}
    (h : exec (read m op) d = (.ok a, d')) : op d.store = .ok a := by
  rw [exec_read] at h
  revert h
  rcases (d.plan.trip m).2 with _ | f
  · rcases op d.store with f | b
    · intro h
      cases h
    · intro h
      cases h
      rfl
  · intro h
    cases h

theorem exec_within_error {context : String} {f : Fault}
    (h : exec (within context x) d = (.error f, d')) : ∃ e, exec x d = (.error e, d') := by
  rw [exec_within] at h
  rcases hx : exec x d with ⟨_ | a, d₁⟩ <;> rw [hx] at h <;> cases h
  exact ⟨_, rfl⟩

theorem exec_change_error {m : StoreMethod} {op : Store → Except Fault Store}
    {f : Fault} (h : exec (change m op) d = (.error f, d')) : d'.store = d.store := by
  rw [exec_change] at h
  revert h
  rcases (d.plan.trip m).2 with _ | f'
  · rcases op d.store with f'' | s
    · intro h
      cases h
      rfl
    · intro h
      cases h
  · intro h
    cases h
    rfl

theorem exec_change_ok {m : StoreMethod} {op : Store → Except Fault Store}
    (h : exec (change m op) d = (.ok (), d')) : op d.store = .ok d'.store := by
  rw [exec_change] at h
  revert h
  rcases (d.plan.trip m).2 with _ | f
  · rcases op d.store with _ | s
    · intro h
      cases h
    · intro h
      cases h
      rfl
  · intro h
    cases h

theorem exec_attempt_ok {a : α}
    (h : exec (attempt x) d = (.ok (.ok a), d')) : exec x d = (.ok a, d') := by
  rw [exec_attempt] at h
  rcases hx : exec x d with ⟨_ | _, d₁⟩ <;> rw [hx] at h
  · dsimp only at h
    split at h <;> cases h
  · cases h
    rfl

theorem exec_attempt_error {f : Fault}
    (h : exec (attempt x) d = (.ok (.error f), d')) : exec x d = (.error f, d') := by
  rw [exec_attempt] at h
  rcases hx : exec x d with ⟨_ | _, d₁⟩ <;> rw [hx] at h
  · dsimp only at h
    split at h
    · cases h
    · cases h
      rfl
  · cases h

/-- Whatever a step answers, giving its failure as a value leaves the desk where the step did. -/
theorem exec_attempt_desk (x : DeskM α) (d : Desk) : (exec (attempt x) d).2 = (exec x d).2 := by
  rw [exec_attempt]
  rcases exec x d with ⟨_ | _, d'⟩
  · dsimp only
    split <;> rfl
  · rfl

end Equations

/-- A relation between a desk and a later one that holds across everything a step does outside
the store and the snapshot cache: it is a preorder, and it holds across a change of the metrics
or of the cooldown table, across a store call counted against the staged failures, and across a
dropped snapshot. -/
structure Frame (R : Desk → Desk → Prop) : Prop where
  refl : ∀ d, R d d
  trans : ∀ {d₁ d₂ d₃}, R d₁ d₂ → R d₂ d₃ → R d₁ d₃
  metrics : ∀ d m, R d { d with metrics := m }
  cooldowns : ∀ d c, R d { d with cooldowns := c }
  trip : ∀ d m, R d { d with plan := (d.plan.trip m).1 }
  drop : ∀ d trader, R d (d.drop trader)

/-- Steps that leave the store as it was. -/
theorem store_frame : Frame fun d d' : Desk => d'.store = d.store where
  refl := fun _ => rfl
  trans := fun h₁ h₂ => h₂.trans h₁
  metrics := fun _ _ => rfl
  cooldowns := fun _ _ => rfl
  trip := fun _ _ => rfl
  drop := fun _ _ => rfl

/-- Every run of `x`, whatever it answers, ends in a desk that `R` relates to its start. -/
def Keeps (R : Desk → Desk → Prop) (x : DeskM α) : Prop := ∀ d, R d (exec x d).2

theorem Keeps.of_exec {R : Desk → Desk → Prop} (hx : Keeps R x)
    {r : Except Fault α} (h : exec x d = (r, d')) : R d d' := by
  simpa [h] using hx d

section Keeps

variable {R : Desk → Desk → Prop}

theorem keeps_modify {f : Desk → Desk} (h : ∀ d, R d (f d)) : Keeps R (modify f : DeskM PUnit) :=
  fun d => h d

/-- `bind` keeps `R` when the rest does from wherever the first part answered. -/
theorem Frame.keeps_bind_ok {f : α → DeskM β} (hR : Frame R) (hx : Keeps R x)
    (hf : ∀ a d d', exec x d = (.ok a, d') → R d' (exec (f a) d').2) : Keeps R (x >>= f) := by
  intro d
  rw [exec_bind]
  rcases hd : exec x d with ⟨_ | a, d'⟩
  · simpa [hd] using hx d
  · have h₁ : R d d' := by simpa [hd] using hx d
    exact hR.trans h₁ (hf a d d' hd)

theorem keeps_map (f : α → β) (hx : Keeps R x) : Keeps R (f <$> x) := by
  intro d
  rw [exec_map]
  rcases hd : exec x d with ⟨_ | a, d'⟩ <;> simpa [hd] using hx d

theorem keeps_ite {c : Prop} [Decidable c] {x y : DeskM α} (hx : Keeps R x) (hy : Keeps R y) :
    Keeps R (if c then x else y) := by
  split
  · exact hx
  · exact hy

end Keeps

namespace Frame

variable {R : Desk → Desk → Prop} (hR : Frame R)
include hR

theorem keeps_pure (a : α) : Keeps R (pure a) := fun d => hR.refl d

theorem keeps_throw (f : Fault) : Keeps R (throw f : DeskM α) := fun d => hR.refl d

theorem keeps_get : Keeps R (get : DeskM Desk) := fun d => hR.refl d

theorem keeps_throw_bind (f : Fault) (g : α → DeskM β) : Keeps R (throw f >>= g) :=
  fun d => hR.refl d

theorem keeps_bind {f : α → DeskM β} (hx : Keeps R x) (hf : ∀ a, Keeps R (f a)) :
    Keeps R (x >>= f) := by
  intro d
  rw [exec_bind]
  rcases hd : exec x d with ⟨_ | a, d'⟩
  · simpa [hd] using hx d
  · have h₁ : R d d' := by simpa [hd] using hx d
    exact hR.trans h₁ (hf a d')

theorem keeps_tryCatch {h : Fault → DeskM α} (hx : Keeps R x)
    (hh : ∀ e, Keeps R (h e)) : Keeps R (tryCatch x h) := by
  intro d
  rw [exec_tryCatch]
  rcases hd : exec x d with ⟨_ | _, d'⟩
  · have h₁ : R d d' := by simpa [hd] using hx d
    exact hR.trans h₁ (hh _ d')
  · simpa [hd] using hx d

theorem keeps_filterAuxM {p : α → DeskM Bool} :
    ∀ {l : List α} (acc : List α), (∀ a ∈ l, Keeps R (p a)) → Keeps R (List.filterAuxM p l acc)
  | [], _, _ => hR.keeps_pure _
  | a :: _, _, hl => hR.keeps_bind (hl a List.mem_cons_self) fun _ =>
      keeps_filterAuxM _ fun b hb => hl b (List.mem_cons_of_mem _ hb)

/-- A filter over a list keeps `R` when the test of each element does. -/
theorem keeps_filterM {p : α → DeskM Bool} {l : List α} (hl : ∀ a ∈ l, Keeps R (p a)) :
    Keeps R (l.filterM p) :=
  hR.keeps_bind (hR.keeps_filterAuxM [] hl) fun _ => hR.keeps_pure _

/-- Each element a filter drops leaves a mark `Q` on the desk: when the test answers false from a
desk where `I` holds, `Q` holds where it stops, and `Q` lasts along `R` from where `I` holds. -/
theorem filterM_dropped {p : α → DeskM Bool} {l : List α} (hp : ∀ a ∈ l, Keeps R (p a))
    (I : Desk → Prop) (hI : ∀ d d', I d → R d d' → I d')
    (Q : α → Desk → Prop) (hQ : ∀ a d d', I d → Q a d → R d d' → Q a d')
    (hfalse : ∀ a ∈ l, ∀ d d', I d → exec (p a) d = (.ok false, d') → Q a d')
    {l' : List α} (hd : I d) (h : exec (l.filterM p) d = (.ok l', d')) :
    ∀ a ∈ l, a ∈ l' ∨ Q a d' := by
  -- the loop keeps what it was given and marks what it drops
  have loop : ∀ (l acc : List α) (d d' : Desk) (res : List α), (∀ a ∈ l, Keeps R (p a)) →
      (∀ a ∈ l, ∀ d d', I d → exec (p a) d = (.ok false, d') → Q a d') → I d →
      exec (List.filterAuxM p l acc) d = (.ok res, d') →
        (∀ a ∈ acc, a ∈ res) ∧ ∀ a ∈ l, a ∈ res ∨ Q a d' := by
    intro l
    induction l with
    | nil =>
      intro acc d d' res _ _ _ h
      cases h
      exact ⟨fun _ ha => ha, by simp⟩
    | cons a l ih =>
      intro acc d d' res hp hfalse hd h
      obtain ⟨b, d₁, h₁, h₂⟩ := exec_bind_ok h
      have hd₁ : I d₁ := hI d d₁ hd (by simpa [h₁] using hp a List.mem_cons_self d)
      obtain ⟨hacc, hrest⟩ := ih _ d₁ d' res (fun b hb => hp b (List.mem_cons_of_mem _ hb))
        (fun b hb => hfalse b (List.mem_cons_of_mem _ hb)) hd₁ h₂
      have hrun : R d₁ d' := by
        have := hR.keeps_filterAuxM (cond b (a :: acc) acc)
          (fun b hb => hp b (List.mem_cons_of_mem _ hb)) d₁
        rwa [h₂] at this
      refine ⟨fun x hx => hacc x ?_, ?_⟩
      · cases b <;> simp [hx]
      · intro x hx
        rcases List.mem_cons.mp hx with rfl | hx
        · cases b
          · -- dropped: the mark survives the rest of the loop
            exact .inr (hQ x d₁ d' hd₁ (hfalse x List.mem_cons_self d d₁ hd h₁) hrun)
          · exact .inl (hacc x List.mem_cons_self)
        · exact hrest x hx
  obtain ⟨res, d₁, h₁, h₂⟩ := exec_bind_ok h
  simp only [exec_pure, Prod.mk.injEq, Except.ok.injEq] at h₂
  obtain ⟨rfl, rfl⟩ := h₂
  intro a ha
  simpa using (loop l [] d _ res hp hfalse hd h₁).2 a ha

/-- A fold over a list keeps `R` when each of its steps does. -/
theorem keeps_foldlM {γ : Type} {f : γ → α → DeskM γ} :
    ∀ {l : List α} (init : γ), (∀ acc, ∀ a ∈ l, Keeps R (f acc a)) →
      Keeps R (l.foldlM f init) := by
  intro l
  induction l with
  | nil => intro init _; exact hR.keeps_pure _
  | cons a l ih =>
    intro init hl
    rw [List.foldlM_cons]
    exact hR.keeps_bind (hl init a List.mem_cons_self) fun acc =>
      ih acc fun acc b hb => hl acc b (List.mem_cons_of_mem _ hb)

theorem keeps_clock : Keeps R clock := fun d => hR.refl d

theorem keeps_tally (f : Metrics → Metrics) : Keeps R (tally f) := fun d => hR.metrics d _

theorem keeps_invalidate (trader : String) : Keeps R (invalidate trader) := fun d => hR.drop d _

theorem keeps_exact (e : Exact α) : Keeps R (exact e) := by
  intro d
  cases e
  · exact hR.refl d
  · exact hR.refl d

theorem keeps_read (m : StoreMethod) (op : Store → Except Fault α) : Keeps R (read m op) := by
  intro d
  rw [exec_read]
  rcases (d.plan.trip m).2 with _ | f
  · rcases op d.store <;> exact hR.trip d m
  · exact hR.trip d m

/-- A store write keeps `R` when every change of the store the operation can make does. -/
theorem keeps_write {m : StoreMethod} {op : Store → Except Fault (α × Store)}
    (h : ∀ d a s, op d.store = .ok (a, s) → R d { d with store := s }) : Keeps R (write m op) := by
  intro d
  rw [exec_write]
  rcases (d.plan.trip m).2 with _ | f
  · rcases hop : op d.store with _ | ⟨a, s⟩
    · exact hR.trip d m
    · exact hR.trans (hR.trip d m) (h { d with plan := (d.plan.trip m).1 } a s hop)
  · exact hR.trip d m

theorem keeps_change {m : StoreMethod} {op : Store → Except Fault Store}
    (h : ∀ d s, op d.store = .ok s → R d { d with store := s }) : Keeps R (change m op) := by
  refine hR.keeps_write fun d a s hop => h d s ?_
  cases hs : op d.store with
  | error f =>
    rw [hs] at hop
    cases hop
  | ok s' =>
    rw [hs] at hop
    cases hop
    rfl

theorem keeps_within (context : String) (hx : Keeps R x) :
    Keeps R (within context x) :=
  hR.keeps_tryCatch hx fun _ => hR.keeps_throw _

theorem keeps_attempt (hx : Keeps R x) : Keeps R (attempt x) :=
  hR.keeps_tryCatch (keeps_map _ hx) fun _ => keeps_ite (hR.keeps_throw _) (hR.keeps_pure _)

theorem keeps_ignoring {x : DeskM Unit} (hx : Keeps R x) : Keeps R (ignoring x) :=
  hR.keeps_tryCatch hx fun _ => keeps_ite (hR.keeps_throw _) (hR.keeps_pure _)

end Frame

end Desk

end TradeLedger
