import Mathlib
import TradeLedger.Proofs.Cooldown.Refinement
/-!
# Cooldowns survive a restart

A cooldown table with a persister queues a save for each entry it installs and a delete for
each entry a clear removes. A keyed persister files saves under the entry's key and lists what
it holds on a load; a restart is a fresh table that loads that list, keeping the live entries.

The persister is no copy of the table: an entry that had ended before its save arrived leaves
an older save in place, and an entry a set kept is never saved again. What holds is that the
two agree on each key's live entry at the restart's instant. A set never shortens an entry and
the persister only drops saves of ended entries, so every set and clear keeps that, whatever
the clock says.

## Main definitions

* `persistedStore`: what a keyed persister holds after a queue of calls.
* `Mirrors`: the table and the persister agree on each key's live entry.

## Theorems

* `Mirrors.performAll`: every run of sets and clears keeps the agreement.
* `Cooldowns.restart_reports_same`: the restarted table reports what the table reports.
-/

namespace TradeLedger

/-! ### The persister -/

/-- The store a keyed persister holds after one call. A save files the entry under its key,
unless the persister drops it (`skips`); a delete forgets the entry's key. -/
def PersistCall.applyTo (skips : Cooldown → Bool) (s : Cooldowns) : PersistCall → Cooldowns
  | .save c => if skips c then s else s.put c.key c
  | .delete c => s.remove c.key

/-- The store a keyed persister holds after the calls, from an empty one. -/
def persistedStore (skips : Cooldown → Bool) (calls : List PersistCall) : Cooldowns :=
  calls.foldl (PersistCall.applyTo skips) {}

theorem persistedStore_append (skips : Cooldown → Bool) (calls : List PersistCall)
    (call : PersistCall) :
    persistedStore skips (calls ++ [call]) =
      PersistCall.applyTo skips (persistedStore skips calls) call := by
  simp [persistedStore, PersistCall.applyTo]

/-- An entry with no time left filled in, as the table files it and a restore loads it. -/
def Cooldown.settled (c : Cooldown) : Cooldown := { c with remaining := 0 }

/-- Two entries alike but for the time left are alike once it is filled in. -/
theorem Cooldown.fill_eq_of_settled_eq {c c' : Cooldown} (h : c.settled = c'.settled)
    (d : Duration) : { c with remaining := d } = { c' with remaining := d } := by
  cases c
  cases c'
  simp only [settled, Cooldown.mk.injEq] at h
  obtain ⟨rfl, rfl, rfl, rfl, rfl, rfl, -⟩ := h
  rfl

@[simp] theorem Cooldown.endedAt_settled (c : Cooldown) (now : Instant) :
    c.settled.endedAt now = c.endedAt now := rfl

@[simp] theorem Cooldown.key_settled (c : Cooldown) : c.settled.key = c.key := rfl

@[simp] theorem Cooldown.settled_settled (c : Cooldown) : c.settled.settled = c.settled := rfl

namespace Cooldowns

/-! ### Live entries -/

/-- The entry of a key if it is live at `now`, with no time left filled in. -/
def liveEntry (b : Cooldowns) (now : Instant) (k : String) : Option Cooldown :=
  ((b.find? k).filter fun c => !c.endedAt now).map Cooldown.settled

theorem liveEntry_remove_ended {b : Cooldowns} {now : Instant} {k : String} {c : Cooldown}
    (hc : b.find? k = some c) (hended : c.endedAt now = true) :
    (b.remove k).liveEntry now = b.liveEntry now := by
  funext k'
  unfold liveEntry
  rw [find?_remove]
  split
  · next hk => simp [hk, hc, hended, Option.filter]
  · rfl

/-- A check reads only the live entries: two tables with the same live entries answer alike. -/
theorem check_go_congr (now : Instant) (symbol trader : String) :
    ∀ (scopes : List Scope) (b b' : Cooldowns), b.liveEntry now = b'.liveEntry now →
      (check.go now symbol trader b scopes).2 = (check.go now symbol trader b' scopes).2
  | [], _, _, _ => rfl
  | scope :: rest, b, b', h => by
    unfold check.go
    split
    · exact check_go_congr now symbol trader rest b b' h
    dsimp only
    have hk := congrFun h (cooldownKey scope symbol trader)
    unfold liveEntry at hk
    -- the scope's key: both answer its live entry, or both go on with it evicted or absent
    rcases hc : b.find? (cooldownKey scope symbol trader) with _ | c <;>
      rcases hc' : b'.find? (cooldownKey scope symbol trader) with _ | c' <;>
      rw [hc, hc'] at hk
    · exact check_go_congr now symbol trader rest b b' h
    · by_cases hended' : c'.endedAt now = true
      · simp only [hended', if_true]
        exact check_go_congr now symbol trader rest b _
          (h.trans (liveEntry_remove_ended hc' hended').symm)
      · simp [Option.filter, hended'] at hk
    · by_cases hended : c.endedAt now = true
      · simp only [hended, if_true]
        exact check_go_congr now symbol trader rest _ b'
          ((liveEntry_remove_ended hc hended).trans h)
      · simp [Option.filter, hended] at hk
    · by_cases hended : c.endedAt now = true <;> by_cases hended' : c'.endedAt now = true
      · simp only [hended, hended', if_true]
        exact check_go_congr now symbol trader rest _ _
          ((liveEntry_remove_ended hc hended).trans (h.trans (liveEntry_remove_ended hc' hended').symm))
      · simp [Option.filter, hended, hended'] at hk
      · simp [Option.filter, hended, hended'] at hk
      · -- two live entries alike but for the time left, which the answer fills in
        simp only [Option.filter, hended, hended', Bool.not_false, if_true, Option.map_some,
          Option.some.injEq] at hk
        simp only [hended, hended', Bool.false_eq_true, if_false]
        have hend := congrArg Cooldown.endTime hk
        change c.endTime = c'.endTime at hend
        rw [Cooldown.fill_eq_of_settled_eq hk, hend]

theorem check_congr {b b' : Cooldowns} {now : Instant} (h : b.liveEntry now = b'.liveEntry now)
    (symbol trader : String) :
    (b.check now symbol trader).2 = (b'.check now symbol trader).2 :=
  check_go_congr now symbol trader Scope.checkOrder b b' h

theorem liveEntry_put (b : Cooldowns) (now : Instant) (k k' : String) (c : Cooldown) :
    (b.put k c).liveEntry now k' =
      if k' = k then ((some c).filter fun c => !c.endedAt now).map Cooldown.settled
      else b.liveEntry now k' := by
  unfold liveEntry
  rw [find?_put]
  split <;> rfl

theorem liveEntry_remove (b : Cooldowns) (now : Instant) (k k' : String) :
    (b.remove k).liveEntry now k' = if k' = k then none else b.liveEntry now k' := by
  unfold liveEntry
  rw [find?_remove]
  split <;> rfl

theorem liveEntry_eq_none {b : Cooldowns} {now : Instant} {k : String}
    (h : ∀ c, b.find? k = some c → c.endedAt now = true) : b.liveEntry now k = none := by
  unfold liveEntry
  rcases hc : b.find? k with _ | c
  · rfl
  · simp [Option.filter, h c hc]

/-! ### What a keyed persister holds -/

/-- A store that files each entry under its own key, once. -/
structure Filed (s : Cooldowns) : Prop where
  keyed : ∀ e ∈ s.entries, e.2.key = e.1
  nodup : (s.entries.map (·.1)).Nodup

theorem Filed.put {s : Cooldowns} (h : s.Filed) (c : Cooldown) : (s.put c.key c).Filed where
  keyed e he := by
    rcases List.mem_cons.1 he with rfl | he
    · rfl
    · exact h.keyed e (List.mem_filter.1 he).1
  nodup := put_nodup s c.key c h.nodup

theorem Filed.remove {s : Cooldowns} (h : s.Filed) (k : String) : (s.remove k).Filed where
  keyed e he := h.keyed e (List.mem_filter.1 he).1
  nodup := remove_nodup s k h.nodup

/-- In a filed store, the entry of a key is the stored entry with that key. -/
theorem Filed.find?_eq_some_iff {s : Cooldowns} (h : s.Filed) {k : String} {c : Cooldown} :
    s.find? k = some c ↔ c ∈ s.entries.map Prod.snd ∧ c.key = k := by
  unfold find?
  constructor
  · intro hc
    obtain ⟨e, he, rfl⟩ := Option.map_eq_some_iff.1 hc
    have hmem := List.mem_of_find?_eq_some he
    have hek : e.1 = k := by simpa using List.find?_some he
    exact ⟨List.mem_map_of_mem hmem, (h.keyed e hmem).trans hek⟩
  · rintro ⟨hc, rfl⟩
    obtain ⟨e, he, rfl⟩ := List.mem_map.1 hc
    have hkey := h.keyed e he
    rcases hf : s.entries.find? (·.1 == e.2.key) with _ | e'
    · have hnot := List.find?_eq_none.1 hf e he
      simp [hkey] at hnot
    · -- the entry found has the key of `e`, and keys are filed once
      have hk' : e'.1 = e.2.key := by simpa using List.find?_some hf
      have heq : e' = e :=
        List.inj_on_of_nodup_map h.nodup (List.mem_of_find?_eq_some hf) he (hk'.trans hkey)
      rw [hf, heq]
      rfl

theorem filed_of_entries_nil {s : Cooldowns} (h : s.entries = []) : s.Filed where
  keyed e he := by simp [h] at he
  nodup := by simp [h]

end Cooldowns

/-- Whatever the calls, a keyed persister files each entry under its key, once. -/
theorem filed_persistedStore (skips : Cooldown → Bool) (calls : List PersistCall) :
    (persistedStore skips calls).Filed := by
  induction calls using List.reverseRecOn with
  | nil => exact Cooldowns.filed_of_entries_nil rfl
  | append_singleton calls call ih =>
    rw [persistedStore_append]
    cases call with
    | save c =>
      by_cases hskip : skips c = true
      · simpa only [PersistCall.applyTo, hskip, if_true] using ih
      · simpa only [PersistCall.applyTo, hskip, Bool.false_eq_true, if_false] using ih.put c
    | delete c => exact ih.remove c.key

/-! ### Restoring -/

namespace Cooldown

theorem endedAt_of_le {c : Cooldown} {t now : Instant} (hle : t.toMs ≤ now.toMs)
    (h : c.endedAt t = true) : c.endedAt now = true := by
  simp only [endedAt, Bool.not_eq_true', decide_eq_false_iff_not, Int.not_lt] at h ⊢
  omega

theorem endedAt_of_endTime_le {c c' : Cooldown} {now : Instant}
    (hle : c'.endTime.toMs ≤ c.endTime.toMs) (h : c.endedAt now = true) :
    c'.endedAt now = true := by
  simp only [endedAt, Bool.not_eq_true', decide_eq_false_iff_not, Int.not_lt] at h ⊢
  omega

end Cooldown

namespace Cooldowns

/-- The first live entry of a key in a list. -/
def firstLive (now : Instant) (l : List Cooldown) (k : String) : Option Cooldown :=
  l.find? fun c => c.key == k && !c.endedAt now

/-- A loaded entry that is ended, or ends no later than the entry of its key, is passed over. -/
theorem restore_append_of_kept (b : Cooldowns) (now : Instant) (l : List Cooldown)
    (c : Cooldown) (hkept : c.endedAt now = true ∨
      ∃ prev, (b.restore now l).1.find? c.key = some prev ∧ c.endTime.toMs ≤ prev.endTime.toMs) :
    (b.restore now (l ++ [c])).1 = (b.restore now l).1 := by
  unfold restore at hkept ⊢
  rw [List.foldl_append, List.foldl_cons, List.foldl_nil]
  generalize List.foldl _ (b, 0) l = acc at hkept ⊢
  obtain ⟨a, n⟩ := acc
  dsimp only at hkept ⊢
  rcases hkept with hended | ⟨prev, hprev, hle⟩
  · rw [if_pos hended]
  · split
    · rfl
    · rw [hprev]
      dsimp only
      rw [if_neg (Int.not_lt.2 hle)]

/-- A live loaded entry that ends after any entry of its key is filed, settled. -/
theorem restore_append_of_put (b : Cooldowns) (now : Instant) (l : List Cooldown)
    (c : Cooldown) (hlive : c.endedAt now = false)
    (hlater : ∀ prev, (b.restore now l).1.find? c.key = some prev →
      prev.endTime.toMs < c.endTime.toMs) :
    (b.restore now (l ++ [c])).1 = (b.restore now l).1.put c.key c.settled := by
  unfold restore at hlater ⊢
  rw [List.foldl_append, List.foldl_cons, List.foldl_nil]
  generalize List.foldl _ (b, 0) l = acc at hlater ⊢
  obtain ⟨a, n⟩ := acc
  dsimp only at hlater ⊢
  rw [if_neg (by simp [hlive])]
  split
  · next prev hprev => rw [if_pos (hlater prev hprev)]; rfl
  · rfl

/-- Restoring into an empty table files, for each key, the first live loaded entry of the key,
settled, when the live loaded entries of each key agree. -/
theorem restore_find? {b : Cooldowns} (hb : b.entries = []) (now : Instant) (s : Cooldowns) :
    ∀ (loaded : List Cooldown), (∀ c ∈ loaded, c.endedAt now = false → s.find? c.key = some c) →
      ∀ k, (b.restore now loaded).1.find? k = (firstLive now loaded k).map Cooldown.settled := by
  intro loaded
  induction loaded using List.reverseRecOn with
  | nil =>
    intro _ k
    simp [restore, find?, hb, firstLive]
  | append_singleton l c ih =>
    intro hagree k
    have ih := ih fun c' hc' => hagree c' (List.mem_append_left _ hc')
    have hfind : firstLive now (l ++ [c]) k =
        (firstLive now l k).or (if c.key = k ∧ c.endedAt now = false then some c else none) := by
      simp [firstLive, List.find?_append, List.find?_singleton]
    by_cases hended : c.endedAt now = true
    · -- an ended entry changes nothing
      rw [restore_append_of_kept b now l c (.inl hended), ih, hfind]
      simp [hended]
    have hlive : c.endedAt now = false := by simpa using hended
    have hc : s.find? c.key = some c := hagree c (List.mem_append_right _ (List.mem_singleton_self c)) hlive
    rcases hprev : (b.restore now l).1.find? c.key with _ | prev
    · -- no entry of the key yet: no live entry of the key came before
      have hnone : firstLive now l c.key = none := by
        rw [ih] at hprev
        exact Option.map_eq_none_iff.1 hprev
      rw [restore_append_of_put b now l c hlive (fun p hp => by simp [hprev] at hp), find?_put,
        hfind]
      by_cases hk : k = c.key
      · subst hk
        simp [hnone, hlive]
      · simp [hk, ih, Ne.symm hk]
    · -- the key's entry is the earlier live entry of the key, which the store says is `c`
      rw [ih] at hprev
      obtain ⟨c', hc', rfl⟩ := Option.map_eq_some_iff.1 hprev
      have hmem := List.mem_of_find?_eq_some hc'
      have hkey : c'.key = c.key ∧ c'.endedAt now = false := by
        simpa using List.find?_some hc'
      have hsame : c' = c := by
        have := hagree c' (List.mem_append_left _ hmem) hkey.2
        rw [hkey.1, hc] at this
        exact (Option.some.inj this).symm
      subst hsame
      rw [restore_append_of_kept b now l c' (.inr ⟨_, (ih c'.key).trans hprev, Int.le_refl _⟩), ih,
        hfind]
      by_cases hk : k = c'.key
      · subst hk
        simp [hc']
      · simp [Ne.symm hk]

/-- A restore into an empty table holds the live entries of a filed store when the loaded
entries are the stored ones, give or take ended entries. -/
theorem restore_liveEntry {b : Cooldowns} (hb : b.entries = []) {now : Instant} {s : Cooldowns}
    (hs : s.Filed) {loaded : List Cooldown}
    (hload : ∀ c, c.endedAt now = false → (c ∈ loaded ↔ c ∈ s.entries.map Prod.snd)) :
    (b.restore now loaded).1.liveEntry now = s.liveEntry now := by
  have hagree : ∀ c ∈ loaded, c.endedAt now = false → s.find? c.key = some c :=
    fun c hc hlive => hs.find?_eq_some_iff.2 ⟨(hload c hlive).1 hc, rfl⟩
  -- the first live loaded entry of a key is the store's entry, when live
  have hfirst : ∀ k, firstLive now loaded k = (s.find? k).filter fun c => !c.endedAt now := by
    intro k
    rcases hf : firstLive now loaded k with _ | c
    · rcases hs' : s.find? k with _ | p
      · rfl
      · obtain ⟨hp, rfl⟩ := hs.find?_eq_some_iff.1 hs'
        by_cases hended : p.endedAt now = true
        · simp [Option.filter, hended]
        · have hlive : p.endedAt now = false := by simpa using hended
          have hnot := List.find?_eq_none.1 hf p ((hload p hlive).2 hp)
          simp [hlive] at hnot
    · have hmem := List.mem_of_find?_eq_some hf
      have hkey : c.key = k ∧ c.endedAt now = false := by simpa using List.find?_some hf
      rw [← hkey.1, hagree c hmem hkey.2]
      simp [Option.filter, hkey.2]
  funext k
  unfold liveEntry
  rw [restore_find? hb now s loaded hagree, hfirst]
  rcases s.find? k with _ | c
  · rfl
  · by_cases hended : c.endedAt now = true <;> simp [Option.filter, hended]

end Cooldowns

/-! ### The table and its persister -/

/-- Whether an operation changes what the persister should hold: a set or a clear. -/
def CooldownOp.writes : CooldownOp → Bool
  | .setFor .. | .setUntil .. | .clear .. => true
  | _ => false

namespace Cooldowns

theorem persist_writer (b : Cooldowns) (call : PersistCall) :
    (b.persist call).writer = b.writer := by
  unfold persist
  split <;> rfl

theorem persist_calls_of_running {b : Cooldowns} (h : b.writer = .running) (call : PersistCall) :
    (b.persist call).calls = b.calls ++ [call] := by
  simp [persist, h]

theorem liveEntry_persist (b : Cooldowns) (call : PersistCall) (now : Instant) :
    (b.persist call).liveEntry now = b.liveEntry now := by
  funext k
  unfold liveEntry
  rw [find?_persist]

end Cooldowns

/-- A table whose persister, once the queued calls have reached it, holds the table's live
entries at `T`: the persister runs, the table files each entry under its key, once, and the two
have the same live entries at `T`. -/
structure Mirrors (T : Instant) (skips : Cooldown → Bool) (b : Cooldowns) : Prop where
  running : b.writer = .running
  nodup : (b.entries.map (·.1)).Nodup
  keyed : ∀ k c, b.find? k = some c → c.key = k
  live : b.liveEntry T = (persistedStore skips b.calls).liveEntry T

section Step

variable {T : Instant} {skips : Cooldown → Bool} {b : Cooldowns}

open Cooldowns

theorem Mirrors.start (defaults : CooldownDefaults) :
    Mirrors T skips { defaults := defaults, writer := .running } where
  running := rfl
  nodup := List.nodup_nil
  keyed k c h := by simp [find?] at h
  live := rfl

/-- A change to the table that queues one call keeps the invariant when the table still files
each entry under its key, once, and has the live entries the persister has once the call
reaches it. -/
theorem Mirrors.queue (h : Mirrors T skips b) (b' : Cooldowns) (hwriter : b'.writer = b.writer)
    (hcalls : b'.calls = b.calls) (call : PersistCall) (hnodup : (b'.entries.map (·.1)).Nodup)
    (hkeyed : ∀ k c, b'.find? k = some c → c.key = k)
    (hlive : b'.liveEntry T =
      (PersistCall.applyTo skips (persistedStore skips b.calls) call).liveEntry T) :
    Mirrors T skips (b'.persist call) where
  running := (persist_writer b' call).trans (hwriter.trans h.running)
  nodup := by
    rw [persist_entries]
    exact hnodup
  keyed k c hc := hkeyed k c (by rwa [find?_persist] at hc)
  live := by
    rw [liveEntry_persist, persist_calls_of_running (hwriter.trans h.running), hcalls,
      persistedStore_append]
    exact hlive

/-- Filing an entry that ends no earlier than the key's entry, and queueing its save. The save
may be dropped only if the entry has ended at `T`, and then so has the entry it replaces. -/
theorem Mirrors.install (h : Mirrors T skips b)
    (hskips : ∀ c, skips c = true → c.endedAt T = true) {c : Cooldown}
    (hnot : ∀ prev, b.find? c.key = some prev → ¬ prev.endTime.toMs > c.endTime.toMs) :
    Mirrors T skips ((b.put c.key c).persist (.save c)) := by
  refine h.queue (b.put c.key c) rfl rfl (.save c) (put_nodup b _ c h.nodup) (fun k c' hc' => ?_) ?_
  · rw [find?_put] at hc'
    split at hc'
    · next hk =>
      cases hc'
      exact hk.symm
    · exact h.keyed k c' hc'
  · funext k
    rw [liveEntry_put]
    by_cases hskip : skips c = true
    · simp only [PersistCall.applyTo, hskip, if_true]
      by_cases hk : k = c.key
      · subst hk
        -- the save was dropped: the store keeps the replaced entry, which has ended too
        have hended := hskips c hskip
        rw [if_pos rfl, ← congrFun h.live c.key, liveEntry_eq_none fun p hp =>
          Cooldown.endedAt_of_endTime_le (Int.not_lt.1 (hnot p hp)) hended]
        simp [Option.filter, hended]
      · rw [if_neg hk]
        exact congrFun h.live k
    · simp only [PersistCall.applyTo, hskip, if_false, Bool.false_eq_true]
      rw [liveEntry_put]
      by_cases hk : k = c.key
      · rw [if_pos hk, if_pos hk]
      · rw [if_neg hk, if_neg hk]
        exact congrFun h.live k

/-- Removing a key's entry and queueing its delete. -/
theorem Mirrors.remove (h : Mirrors T skips b) {k : String} {c : Cooldown}
    (hc : b.find? k = some c) : Mirrors T skips ((b.remove k).persist (.delete c)) := by
  refine h.queue (b.remove k) rfl rfl (.delete c) (remove_nodup b k h.nodup) (fun k' c' hc' => ?_) ?_
  · rw [find?_remove] at hc'
    split at hc'
    · cases hc'
    · exact h.keyed k' c' hc'
  · funext k'
    dsimp only [PersistCall.applyTo]
    rw [h.keyed k c hc, liveEntry_remove, liveEntry_remove]
    split
    · rfl
    · exact congrFun h.live k'

/-- Evicting an entry that had ended by an instant no later than `T`. -/
theorem Mirrors.remove_ended (h : Mirrors T skips b) {t : Instant} (hle : t.toMs ≤ T.toMs)
    {k : String} {c : Cooldown} (hc : b.find? k = some c) (hended : c.endedAt t = true) :
    Mirrors T skips (b.remove k) where
  running := h.running
  nodup := remove_nodup b k h.nodup
  keyed k' c' hc' := by
    rw [find?_remove] at hc'
    split at hc'
    · cases hc'
    · exact h.keyed k' c' hc'
  live := (liveEntry_remove_ended hc (Cooldown.endedAt_of_le hle hended)).trans h.live

theorem Mirrors.setUntil (h : Mirrors T skips b)
    (hskips : ∀ c, skips c = true → c.endedAt T = true) (now : Instant) (scope : Scope)
    (symbol trader : String) (e : Instant) (reason : String) :
    Mirrors T skips (b.setUntil now scope symbol trader e reason).1 := by
  unfold Cooldowns.setUntil
  dsimp only
  split
  · next prev hprev =>
    split
    · exact h
    · next hlater => exact h.install hskips fun p hp => by rw [hprev] at hp; cases hp; exact hlater
  · next hnone => exact h.install hskips fun p hp => by rw [hnone] at hp; cases hp

theorem Mirrors.clear (h : Mirrors T skips b) (scope : Scope) (symbol trader : String) :
    Mirrors T skips (b.clear scope symbol trader).1 := by
  unfold Cooldowns.clear
  dsimp only
  split
  · next c hc => exact h.remove hc
  · exact h

/-- A check at an instant no later than `T` evicts only entries ended at `T`. -/
theorem Mirrors.check_go {t : Instant} (hle : t.toMs ≤ T.toMs) (symbol trader : String) :
    ∀ (scopes : List Scope) (b : Cooldowns), Mirrors T skips b →
      Mirrors T skips (check.go t symbol trader b scopes).1
  | [], _, h => h
  | scope :: rest, b, h => by
    unfold check.go
    split
    · exact Mirrors.check_go hle symbol trader rest b h
    · dsimp only
      split
      · exact Mirrors.check_go hle symbol trader rest b h
      · next c hc =>
        split
        · exact Mirrors.check_go hle symbol trader rest _ (h.remove_ended hle hc ‹_›)
        · exact h

/-- A cleanup at an instant no later than `T` evicts only entries ended at `T`. -/
theorem Mirrors.cleanup (h : Mirrors T skips b) {t : Instant} (hle : t.toMs ≤ T.toMs) :
    Mirrors T skips (b.cleanup t).1 where
  running := h.running
  nodup := cleanup_nodup b t h.nodup
  keyed k c hc := by
    rw [find?_cleanup b t k h.nodup] at hc
    exact h.keyed k c (Option.filter_eq_some_iff.1 hc).1
  live := by
    funext k
    change _ = (persistedStore skips b.calls).liveEntry T k
    rw [← congrFun h.live k]
    unfold liveEntry
    rw [find?_cleanup b t k h.nodup]
    rcases b.find? k with _ | c
    · rfl
    · -- an entry live at `T` is live at `t`
      by_cases hended : c.endedAt T = true
      · by_cases hct : c.endedAt t = true <;> simp [Option.filter, hended, hct]
      · have hlive : c.endedAt t = false := by
          by_contra hc
          exact hended (Cooldown.endedAt_of_le hle (by simpa using hc))
        simp [Option.filter, hended, hlive]

/-- One operation keeps the invariant; one that only reads or evicts must come no later than
`T`. -/
theorem Mirrors.perform (h : Mirrors T skips b)
    (hskips : ∀ c, skips c = true → c.endedAt T = true) (now : Instant) (op : CooldownOp)
    (hop : op.writes = false → now.toMs ≤ T.toMs) : Mirrors T skips (b.perform now op) := by
  cases op with
  | setFor scope symbol trader d reason =>
    rw [Cooldowns.perform, setFor_eq]
    exact h.setUntil hskips ..
  | setUntil => exact h.setUntil hskips ..
  | clear => exact h.clear ..
  | cleanup => exact h.cleanup (hop rfl)
  | check symbol trader => exact Mirrors.check_go (hop rfl) symbol trader _ b h
  | active => exact h

/-- A whole run keeps the invariant. -/
theorem Mirrors.performAll (hskips : ∀ c, skips c = true → c.endedAt T = true) :
    ∀ (ops : List (Instant × CooldownOp)) (b : Cooldowns), Mirrors T skips b →
      (∀ p ∈ ops, p.2.writes = false → p.1.toMs ≤ T.toMs) → Mirrors T skips (b.performAll ops)
  | [], _, h, _ => h
  | (now, op) :: rest, _, h, hclock =>
    Mirrors.performAll hskips rest _
      (h.perform hskips now op (hclock _ List.mem_cons_self))
      (fun p hp => hclock p (List.mem_cons_of_mem _ hp))

end Step

/-- A table with a keyed persister survives a restart. After any run of operations on a table
whose persister runs, where the operations that only read or evict come no later than `T`, and
with a persister that drops only saves of entries ended at `T`, a fresh table that restores at
`T` the stored entries, give or take ended ones, reports at `T` for every symbol and trader what
the table reports. -/
theorem Cooldowns.restart_reports_same (defaults : CooldownDefaults)
    (ops : List (Instant × CooldownOp)) (T : Instant)
    (hclock : ∀ p ∈ ops, p.2.writes = false → p.1.toMs ≤ T.toMs)
    (skips : Cooldown → Bool) (hskips : ∀ c, skips c = true → c.endedAt T = true)
    (loaded : List Cooldown)
    (hload : ∀ c, c.endedAt T = false → (c ∈ loaded ↔ c ∈ (persistedStore skips
      (({ defaults := defaults, writer := .running } : Cooldowns).performAll ops).calls).entries.map
        Prod.snd))
    (fresh : Cooldowns) (hfresh : fresh.entries = []) (symbol trader : String) :
    ((({ defaults := defaults, writer := .running } : Cooldowns).performAll ops).check T symbol
        trader).2 =
      ((fresh.restore T loaded).1.check T symbol trader).2 := by
  have hrun := Mirrors.performAll hskips ops _ (Mirrors.start defaults) hclock
  have hrestored := Cooldowns.restore_liveEntry hfresh (filed_persistedStore _ _) hload
  exact Cooldowns.check_congr (hrun.live.trans hrestored.symm) symbol trader

/-- A symbol cooldown, a trader cooldown that ends before the restart, a check, a clear of the
symbol cooldown and a post-merge cooldown, with a persister that drops saves of entries ended at
the restart: the restarted table reports what the table reports for that trader. -/
theorem restarted_table_reports_post_merge :
    ((({ defaults := {}, writer := .running } : Cooldowns).performAll
        [(some 1790856000000, .setFor .symbol "btc" "" (Duration.ofMs 60000) "loss"),
         (some 1790856000000, .setUntil .symbolTrader "BTC" "alice" (some 1790856005000) "r"),
         (some 1790856010000, .check "BTC" "alice"),
         (some 1790856020000, .clear .symbol "BTC" ""),
         (some 1790856020000, .setFor .postMerge "btc" "" (Duration.ofMs 120000) "merge")]).check
        (some 1790856030000) "BTC" "alice").2 =
      ((({} : Cooldowns).restore (some 1790856030000)
        ((persistedStore (fun c => c.endedAt (some 1790856030000))
          (({ defaults := {}, writer := .running } : Cooldowns).performAll
            [(some 1790856000000, .setFor .symbol "btc" "" (Duration.ofMs 60000) "loss"),
             (some 1790856000000, .setUntil .symbolTrader "BTC" "alice" (some 1790856005000) "r"),
             (some 1790856010000, .check "BTC" "alice"),
             (some 1790856020000, .clear .symbol "BTC" ""),
             (some 1790856020000, .setFor .postMerge "btc" "" (Duration.ofMs 120000) "merge")]).calls).entries.map
          Prod.snd)).1.check (some 1790856030000) "BTC" "alice").2 :=
  Cooldowns.restart_reports_same {} _ (some 1790856030000) (by decide) _ (fun _ h => h) _
    (fun _ _ => Iff.rfl) {} rfl "BTC" "alice"

end TradeLedger
