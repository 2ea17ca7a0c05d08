/-!
# Snapshot generations under concurrent reads and invalidations

The service serves reads while others write, so its cache keeps a generation per trader, the
count of the trader's invalidations, to tell a stale load from a fresh one. Here the protocol
runs as atomic steps in any interleaving. An invalidation bumps the generation, then drops the
cached entry. A read reads the generation, takes a snapshot from the cache and reads the
generation again, loading afresh when the snapshot's tag differs; a load tags its snapshot with
the generation its caller read first. The cache's take is left open: it hands back any finished
load of the trader.

## Main definitions

* `Sys`, `Sys.step`, `Sys.run`: the interleaving model.
* `Inv`: the invariant every step keeps.

## Theorems

* `Inv.run`: the invariant holds after every interleaving.
* `read_serves_load_after_invalidations`: a read returns a load that started after every
  invalidation that had bumped the generation at the call.
-/

namespace TradeLedger

namespace SnapshotCache

/-- A load of a trader's live trades: the generation that tags its snapshot, and the trader's
generation when its store read started. -/
structure Load where
  trader : String
  tag : Nat
  startGen : Nat

/-- Where a read stands: inside the cache's take, holding the snapshot of a load the take handed
back, waiting for a fresh load after the generation moved on, or returned. -/
inductive ReadAt where
  | taking
  | took (l : Nat)
  | reloading (l : Nat)
  | returned (l : Nat)
  deriving DecidableEq

/-- A read: its trader, the generation it read when called, and where it stands. -/
structure Read where
  trader : String
  callGen : Nat
  stage : ReadAt
  deriving DecidableEq

/-- The cache with the calls running on it: the trader of every bump in order, every load and
those that finished, and every read. -/
structure Sys where
  bumps : List String := []
  loads : List Load := []
  finished : List Nat := []
  reads : List Read := []

/-- One atomic step of some goroutine. -/
inductive Act where
  | invalidate (trader : String)
  | read (trader : String)
  /-- read `r`'s take starts a load of its own, tagged with the generation `r` read -/
  | fetch (r : Nat)
  /-- load `l` has read the trades and built its snapshot -/
  | finish (l : Nat)
  /-- read `r`'s take hands back the snapshot of load `l` -/
  | take (r l : Nat)
  /-- read `r` reads the generation again, or collects its fresh load -/
  | check (r : Nat)

namespace Sys

variable {s s' : Sys}

/-- A trader's generation: how many times it was bumped. -/
def gen (s : Sys) (t : String) : Nat := s.bumps.count t

/-- Start a load of a trader's trades whose snapshot is tagged `tag`. -/
def startLoad (s : Sys) (t : String) (tag : Nat) : Sys :=
  { s with loads := s.loads ++ [⟨t, tag, s.gen t⟩] }

/-- Move read `r`, which is `x`, on to stage `st`. -/
def moveRead (s : Sys) (r : Nat) (x : Read) (st : ReadAt) : Sys :=
  { s with reads := s.reads.set r { x with stage := st } }

/-- The step of an action, when it is enabled. -/
def step (s : Sys) : Act → Option Sys
  | .invalidate t => some { s with bumps := s.bumps ++ [t] }
  | .read t => some { s with reads := s.reads ++ [⟨t, s.gen t, .taking⟩] }
  | .fetch r =>
    match s.reads[r]? with
    | some x => if x.stage = .taking then some (s.startLoad x.trader x.callGen) else none
    | none => none
  | .finish l => if l < s.loads.length then some { s with finished := s.finished ++ [l] } else none
  | .take r l =>
    match s.reads[r]?, s.loads[l]? with
    | some x, some ld =>
      if x.stage = .taking ∧ l ∈ s.finished ∧ ld.trader = x.trader then
        some (s.moveRead r x (.took l))
      else none
    | _, _ => none
  | .check r =>
    match s.reads[r]? with
    | some x =>
      match x.stage with
      | .took l =>
        match s.loads[l]? with
        | some ld =>
          if ld.tag = s.gen x.trader then some (s.moveRead r x (.returned l))
          else some ((s.startLoad x.trader (s.gen x.trader)).moveRead r x
            (.reloading s.loads.length))
        | none => none
      | .reloading l => if l ∈ s.finished then some (s.moveRead r x (.returned l)) else none
      | _ => none
    | none => none

/-- Run the steps of an interleaving in turn; `none` when one of them is not enabled. -/
def run (s : Sys) : List Act → Option Sys
  | [] => some s
  | a :: rest => (s.step a).bind fun s' => s'.run rest

/-! ## The invariant -/

/-- What each stage of a read keeps. A snapshot it holds is one of a load of its trader; once
past the generation check, that load started at a generation no lower than the read's. -/
def StageOk (s : Sys) (x : Read) : ReadAt → Prop
  | .taking => True
  | .took l => l ∈ s.finished ∧ ∃ ld, s.loads[l]? = some ld ∧ ld.trader = x.trader
  | .reloading l => ∃ ld, s.loads[l]? = some ld ∧ ld.trader = x.trader ∧ x.callGen ≤ ld.startGen
  | .returned l =>
    l ∈ s.finished ∧ ∃ ld, s.loads[l]? = some ld ∧ ld.trader = x.trader ∧ x.callGen ≤ ld.startGen

/-- A read's generation is one its trader has reached, and its stage keeps `StageOk`. -/
structure ReadOk (s : Sys) (x : Read) : Prop where
  callGen_le : x.callGen ≤ s.gen x.trader
  stage : StageOk s x x.stage

/-- The invariant of every interleaving: a load's tag is a generation read before its store read
started, and every read keeps its own. -/
structure Inv (s : Sys) : Prop where
  loads : ∀ ld ∈ s.loads, ld.tag ≤ ld.startGen
  reads : ∀ x ∈ s.reads, ReadOk s x

theorem inv_init : Inv {} where
  loads _ h := by cases h
  reads _ h := by cases h

/-- What a step only extends. -/
structure Grows (s s' : Sys) : Prop where
  bumps : ∃ bs, s'.bumps = s.bumps ++ bs
  loads : ∃ ls, s'.loads = s.loads ++ ls
  finished : ∀ {l : Nat}, l ∈ s.finished → l ∈ s'.finished

/-- A step that adds no bump, no load and no finished load. -/
theorem Grows.same (hb : s'.bumps = s.bumps) (hl : s'.loads = s.loads)
    (hf : s'.finished = s.finished) : Grows s s' :=
  ⟨⟨[], by rw [hb, List.append_nil]⟩, ⟨[], by rw [hl, List.append_nil]⟩, fun h => hf ▸ h⟩

theorem Grows.gen_le (hg : Grows s s') (t : String) : s.gen t ≤ s'.gen t := by
  obtain ⟨bs, hbs⟩ := hg.bumps
  rw [gen, gen, hbs, List.count_append]
  exact Nat.le_add_right _ _

theorem Grows.getElem?_loads (hg : Grows s s') {l : Nat} {ld : Load}
    (h : s.loads[l]? = some ld) : s'.loads[l]? = some ld := by
  obtain ⟨ls, hls⟩ := hg.loads
  rw [hls, List.getElem?_append_left (List.getElem?_eq_some_iff.mp h).1, h]

theorem StageOk.grow {x : Read} (hg : Grows s s') :
    ∀ {st : ReadAt}, StageOk s x st → StageOk s' x st
  | .taking, h => h
  | .took _, ⟨hf, ld, hl, ht⟩ => ⟨hg.finished hf, ld, hg.getElem?_loads hl, ht⟩
  | .reloading _, ⟨ld, hl, ht, hb⟩ => ⟨ld, hg.getElem?_loads hl, ht, hb⟩
  | .returned _, ⟨hf, ld, hl, ht, hb⟩ => ⟨hg.finished hf, ld, hg.getElem?_loads hl, ht, hb⟩

theorem ReadOk.grow {x : Read} (hg : Grows s s') (h : ReadOk s x) : ReadOk s' x :=
  ⟨Nat.le_trans h.callGen_le (hg.gen_le _), h.stage.grow hg⟩

/-! ## One step at a time -/

/-- A load started with a generation its caller read earlier keeps the invariant. -/
theorem Inv.startLoad (h : Inv s) {t : String} {tag : Nat} (htag : tag ≤ s.gen t) :
    Inv (s.startLoad t tag) := by
  have hg : Grows s (s.startLoad t tag) := ⟨⟨[], (List.append_nil _).symm⟩, ⟨_, rfl⟩, id⟩
  refine ⟨fun ld hld => ?_, fun x hx => (h.reads x hx).grow hg⟩
  rcases List.mem_append.mp hld with hold | hnew
  · exact h.loads ld hold
  · obtain rfl := List.mem_singleton.mp hnew
    exact htag

/-- Moving a read on keeps the invariant when its new stage keeps its own. -/
theorem Inv.moveRead (h : Inv s) {r : Nat} {x : Read} {st : ReadAt}
    (hok : ReadOk s { x with stage := st }) : Inv (s.moveRead r x st) := by
  have hg : Grows s (s.moveRead r x st) := .same rfl rfl rfl
  refine ⟨h.loads, fun y hy => ?_⟩
  rcases List.mem_or_eq_of_mem_set hy with hold | rfl
  · exact (h.reads y hold).grow hg
  · exact hok.grow hg

/-- Every enabled step keeps the invariant. -/
theorem Inv.step (h : Inv s) : ∀ {a : Act}, s.step a = some s' → Inv s'
  | .invalidate t, hs => by
    cases hs
    have hg : Grows s { s with bumps := s.bumps ++ [t] } :=
      ⟨⟨_, rfl⟩, ⟨[], (List.append_nil _).symm⟩, id⟩
    exact ⟨h.loads, fun x hx => (h.reads x hx).grow hg⟩
  | .read t, hs => by
    cases hs
    have hg : Grows s { s with reads := s.reads ++ [⟨t, s.gen t, .taking⟩] } := .same rfl rfl rfl
    refine ⟨h.loads, fun x hx => ?_⟩
    rcases List.mem_append.mp hx with hold | hnew
    · exact (h.reads x hold).grow hg
    · obtain rfl := List.mem_singleton.mp hnew
      exact ⟨Nat.le_refl _, trivial⟩
  | .fetch r, hs => by
    rcases hr : s.reads[r]? with _ | x
    · simp [Sys.step, hr] at hs
    simp only [Sys.step, hr] at hs
    split at hs
    · cases hs
      exact h.startLoad (h.reads x (List.mem_of_getElem? hr)).callGen_le
    · cases hs
  | .finish l, hs => by
    simp only [Sys.step] at hs
    split at hs
    · cases hs
      have hg : Grows s { s with finished := s.finished ++ [l] } :=
        ⟨⟨[], (List.append_nil _).symm⟩, ⟨[], (List.append_nil _).symm⟩, List.mem_append_left _⟩
      exact ⟨h.loads, fun x hx => (h.reads x hx).grow hg⟩
    · cases hs
  | .take r l, hs => by
    rcases hr : s.reads[r]? with _ | x
    · simp [Sys.step, hr] at hs
    rcases hl : s.loads[l]? with _ | ld
    · simp [Sys.step, hr, hl] at hs
    simp only [Sys.step, hr, hl] at hs
    split at hs
    · -- a snapshot from the cache, from another caller's load or from the take's own
      rename_i hen
      cases hs
      exact h.moveRead ⟨(h.reads x (List.mem_of_getElem? hr)).callGen_le, hen.2.1, ld, hl, hen.2.2⟩
    · cases hs
  | .check r, hs => by
    rcases hr : s.reads[r]? with _ | x
    · simp [Sys.step, hr] at hs
    have hx := h.reads x (List.mem_of_getElem? hr)
    rcases hst : x.stage with _ | l | l | l <;> simp only [Sys.step, hr, hst] at hs
    · cases hs
    · have htook : StageOk s x (.took l) := hst ▸ hx.stage
      obtain ⟨hfin, ld, hl, htr⟩ := htook
      simp only [hl] at hs
      split at hs
      · -- the generation check: the tag is the generation now, so the load started at one
        -- no lower than the read's
        rename_i htag
        cases hs
        have hstart : x.callGen ≤ ld.startGen :=
          Nat.le_trans hx.callGen_le (htag ▸ h.loads ld (List.mem_of_getElem? hl))
        exact h.moveRead ⟨hx.callGen_le, hfin, ld, hl, htr, hstart⟩
      · cases hs
        exact (h.startLoad (Nat.le_refl _)).moveRead
          ⟨hx.callGen_le, ⟨_, List.getElem?_concat_length, rfl, hx.callGen_le⟩⟩
    · split at hs
      · rename_i hfin
        cases hs
        have hrel : StageOk s x (.reloading l) := hst ▸ hx.stage
        exact h.moveRead ⟨hx.callGen_le, hfin, hrel⟩
      · cases hs
    · cases hs

/-- The invariant holds after every interleaving. -/
theorem Inv.run {s t : Sys} (h : Inv s) : ∀ {as : List Act}, s.run as = some t → Inv t
  | [], hs => by
    cases hs
    exact h
  | _ :: _, hs => by
    obtain ⟨s', hs', hrest⟩ := Option.bind_eq_some_iff.mp hs
    exact (h.step hs').run hrest

end Sys

/-- In every interleaving, a snapshot that a read returns was built by a finished load of the
read's trader whose store read started when the trader's generation was at least the one the
read saw when called: after every invalidation of the trader that had bumped it by then. -/
theorem read_serves_load_after_invalidations {as : List Act} {s : Sys}
    (hrun : Sys.run {} as = some s) {x : Read} (hx : x ∈ s.reads) {l : Nat}
    (hl : x.stage = .returned l) :
    l ∈ s.finished ∧ ∃ ld, s.loads[l]? = some ld ∧ ld.trader = x.trader ∧
      x.callGen ≤ ld.startGen := by
  have hok := ((Sys.inv_init.run hrun).reads x hx).stage
  rw [hl] at hok
  exact hok

/-- The race of a stale load: a read starts a load, an invalidation of the trader runs, and a
second read is handed the stale snapshot by the cache. -/
def staleLoadRace : List Act :=
  [.read "T", .fetch 0, .invalidate "T", .read "T", .finish 0, .take 1 0, .check 1, .finish 1,
    .check 1]

/-- The second read's generation check rejects the stale snapshot, and the one it returns is
that of a fresh load, which started after the invalidation. -/
theorem stale_load_is_reloaded :
    ∃ s, Sys.run {} staleLoadRace = some s ∧
      1 ∈ s.finished ∧ ∃ ld, s.loads[1]? = some ld ∧ ld.trader = "T" ∧ 1 ≤ ld.startGen :=
  ⟨_, rfl, @read_serves_load_after_invalidations staleLoadRace _ rfl ⟨"T", 1, .returned 1⟩
    (by decide) 1 rfl⟩

end SnapshotCache

end TradeLedger
