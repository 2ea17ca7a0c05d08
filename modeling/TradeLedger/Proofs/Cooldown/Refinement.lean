import TradeLedger.Cooldown.Table
import TradeLedger.Proofs.Text.Case
/-!
# The cooldown table refines a max-end map

Abstractly, cooldowns map keys (a scope, an upper-case symbol and, in the trader scope, a
trader) to the latest end installed since the key's last clear. The table files each key under
one text joining the parts with `:`, evicts ended entries lazily, and lets a set on an equal end
replace the entry. Texts keep keys apart only while no part holds a `:`: a trader cooldown on
`A:B` for trader `C` is filed as one on `A` for trader `B:C`.

## Main definitions

* `MaxEnds.performAll`: the abstract map from keys to latest ends, after operations.
* `Refines`: each plain key's entry ends at the map's end, or both have passed.

## Theorems

* `Refines.performAll`: every run under a clock that never goes back keeps `Refines`.
* `Cooldowns.check_refines_maxEnds`: a check reports what the map gives.
* `Cooldowns.check_reports_aliased_trader`: a check of `B:C` reports the cooldown on `A:B`.
-/

namespace TradeLedger

/-! ### Keys and operations -/

/-- The key of an entry as the triple it names: the scope, the symbol in upper case, and the
trader in the trader scope (empty in the others). -/
structure EntryKey where
  scope : Scope
  symbol : String
  trader : String
  deriving DecidableEq

namespace EntryKey

/-- The key an operation on `scope`, `symbol` and `trader` names. -/
def of (scope : Scope) (symbol trader : String) : EntryKey :=
  ⟨scope, String.toUpperSimple symbol, if scope == .symbolTrader then trader else ""⟩

/-- The text the table files the key under. -/
def text (k : EntryKey) : String := cooldownKey k.scope k.symbol k.trader

end EntryKey

/-! ### Operations and runs -/

/-- An operation on the cooldown table. -/
inductive CooldownOp where
  /-- an entry lasting a duration, or the scope's default when it is not positive -/
  | setFor (scope : Scope) (symbol trader : String) (d : Duration) (reason : String)
  /-- an entry ending at a given instant -/
  | setUntil (scope : Scope) (symbol trader : String) (endTime : Instant) (reason : String)
  | clear (scope : Scope) (symbol trader : String)
  | cleanup
  | check (symbol trader : String)
  | active (symbol trader : String)

/-- The parts of an entry a check reports: its key's parts, its end and the time left. -/
def Cooldown.report (c : Cooldown) : Scope × String × String × Instant × Duration :=
  (c.scope, c.symbol, c.traderId, c.endTime, c.remaining)

/-- The key a set or a clear names. -/
def CooldownOp.key? : CooldownOp → Option EntryKey
  | .setFor scope symbol trader _ _ => some (.of scope symbol trader)
  | .setUntil scope symbol trader _ _ => some (.of scope symbol trader)
  | .clear scope symbol trader => some (.of scope symbol trader)
  | _ => none

namespace Cooldowns

/-- The table after an operation at `now`. -/
def perform (b : Cooldowns) (now : Instant) : CooldownOp → Cooldowns
  | .setFor scope symbol trader d reason => (b.setFor now scope symbol trader d reason).1
  | .setUntil scope symbol trader e reason => (b.setUntil now scope symbol trader e reason).1
  | .clear scope symbol trader => (b.clear scope symbol trader).1
  | .cleanup => (b.cleanup now).1
  | .check symbol trader => (b.check now symbol trader).1
  | .active _ _ => b

/-- The table after operations, each at its instant. -/
def performAll : Cooldowns → List (Instant × CooldownOp) → Cooldowns
  | b, [] => b
  | b, (now, op) :: rest => performAll (b.perform now op) rest

end Cooldowns

/-! ### The max-end map -/

/-- The scope's default length. -/
def CooldownDefaults.forScope (d : CooldownDefaults) : Scope → Duration
  | .symbol => d.symbol
  | .symbolTrader => d.trader
  | .postMerge => d.postMerge
  | .other _ => 0

/-- The later of a key's latest end and a new one; a tie goes to the new one. -/
def laterEnd (old : Option Instant) (e : Instant) : Instant :=
  match old with
  | some o => if o.toMs > e.toMs then o else e
  | none => e

@[simp] theorem laterEnd_none (e : Instant) : laterEnd none e = e := rfl

@[simp] theorem laterEnd_some (o e : Instant) :
    laterEnd (some o) e = if o.toMs > e.toMs then o else e := rfl

namespace MaxEnds

/-- A new end for one key. -/
def install (A : EntryKey → Option Instant) (k : EntryKey) (e : Instant) :
    EntryKey → Option Instant :=
  fun k' => if k' = k then some (laterEnd (A k) e) else A k'

/-- The map after an operation at `now`: a set installs its end, a clear forgets the key. -/
def perform (defaults : CooldownDefaults) (A : EntryKey → Option Instant) (now : Instant) :
    CooldownOp → EntryKey → Option Instant
  | .setFor scope symbol trader d _ =>
    install A (.of scope symbol trader) (now.addDuration (orDefault d (defaults.forScope scope)))
  | .setUntil scope symbol trader e _ => install A (.of scope symbol trader) e
  | .clear scope symbol trader => fun k => if k = .of scope symbol trader then none else A k
  | _ => A

/-- The map after operations, from the empty one. -/
def performAll (defaults : CooldownDefaults) (ops : List (Instant × CooldownOp)) :
    EntryKey → Option Instant :=
  ops.foldl (fun A p => perform defaults A p.1 p.2) fun _ => none

/-- The scope with its key's end, when the end is after `now`; the trader scope is not
consulted without a trader. -/
def live (A : EntryKey → Option Instant) (now : Instant) (symbol trader : String) (scope : Scope) :
    Option (Scope × Instant) :=
  if scope == .symbolTrader && trader == "" then none
  else match A (.of scope symbol trader) with
    | some e => if now.toMs < e.toMs then some (scope, e) else none
    | none => none

/-- The first scope, in the check's order, whose key ends after `now`, with that end. -/
def check (A : EntryKey → Option Instant) (now : Instant) (symbol trader : String) :
    Option (Scope × Instant) :=
  Scope.checkOrder.findSome? (live A now symbol trader)

/-- What a check reports for a scope and end: the key's parts, the end and the time left. -/
def report (now : Instant) (symbol trader : String) : Scope × Instant →
    Scope × String × String × Instant × Duration
  | (scope, e) =>
    (scope, String.toUpperSimple symbol, if scope == .symbolTrader then trader else "", e,
      Instant.sub e now)

end MaxEnds

/-! ### Lookups in the table -/

namespace Cooldowns

/-- Dropping the entries of one key leaves the lookup of another. -/
theorem find?_filter_key_ne {l : List (String × Cooldown)} {k k' : String} (h : k' ≠ k) :
    (l.filter (·.1 != k)).find? (·.1 == k') = l.find? (·.1 == k') := by
  simp only [List.find?_filter]
  congr 1
  funext e
  by_cases he : e.1 = k' <;> simp_all

theorem find?_put (b : Cooldowns) (k k' : String) (c : Cooldown) :
    (b.put k c).find? k' = if k' = k then some c else b.find? k' := by
  unfold find? put
  by_cases hk : k' = k
  · subst hk
    simp
  · rw [if_neg hk, List.find?_cons, find?_filter_key_ne hk]
    have hne : (k == k') = false := by simpa using Ne.symm hk
    simp only [hne]

theorem find?_remove (b : Cooldowns) (k k' : String) :
    (b.remove k).find? k' = if k' = k then none else b.find? k' := by
  unfold find? remove
  by_cases hk : k' = k
  · subst hk
    simp [List.find?_filter]
  · rw [if_neg hk, find?_filter_key_ne hk]

theorem persist_entries (b : Cooldowns) (call : PersistCall) :
    (b.persist call).entries = b.entries := by
  unfold persist
  split <;> rfl

theorem find?_persist (b : Cooldowns) (call : PersistCall) (k : String) :
    (b.persist call).find? k = b.find? k := by
  unfold find?
  rw [persist_entries]

/-- With one entry per key, evicting ended entries leaves each key's entry if it is live. -/
theorem find?_cleanup (b : Cooldowns) (now : Instant) (k : String)
    (hnodup : (b.entries.map (·.1)).Nodup) :
    (b.cleanup now).1.find? k = (b.find? k).filter fun c => !c.endedAt now := by
  unfold find? cleanup
  dsimp only
  generalize b.entries = l at hnodup ⊢
  induction l with
  | nil => rfl
  | cons e rest ih =>
    rw [List.map_cons, List.nodup_cons] at hnodup
    obtain ⟨hfresh, hrest⟩ := hnodup
    by_cases hk : e.1 = k
    · -- no later entry has the key, so an evicted one leaves nothing behind
      have hnone : (rest.filter fun e => !e.2.endedAt now).find? (·.1 == k) = none := by
        rw [List.find?_eq_none]
        intro x hx
        have hxk : x.1 ≠ k := fun hxk =>
          hfresh (hk ▸ hxk ▸ List.mem_map_of_mem (List.mem_filter.1 hx).1)
        simpa using hxk
      by_cases hlive : e.2.endedAt now
      · simp [hlive, hk, hnone, Option.filter]
      · simp [hlive, hk, Option.filter]
    · have hne : (e.1 == k) = false := by simpa using hk
      by_cases hlive : e.2.endedAt now
      · simp only [List.filter_cons, hlive, Bool.not_true, Bool.false_eq_true, if_false,
          List.find?_cons, hne]
        exact ih hrest
      · simp only [List.filter_cons, hlive, Bool.not_false, if_true, List.find?_cons, hne]
        exact ih hrest

theorem put_nodup (b : Cooldowns) (k : String) (c : Cooldown)
    (h : (b.entries.map (·.1)).Nodup) : ((b.put k c).entries.map (·.1)).Nodup := by
  unfold put
  rw [List.map_cons, List.nodup_cons]
  constructor
  · simp
  · exact h.sublist (List.filter_sublist.map _)

theorem remove_nodup (b : Cooldowns) (k : String)
    (h : (b.entries.map (·.1)).Nodup) : ((b.remove k).entries.map (·.1)).Nodup :=
  h.sublist (List.filter_sublist.map _)

theorem cleanup_nodup (b : Cooldowns) (now : Instant)
    (h : (b.entries.map (·.1)).Nodup) : ((b.cleanup now).1.entries.map (·.1)).Nodup :=
  h.sublist (List.filter_sublist.map _)

end Cooldowns

/-! ### Plain keys -/

/-- A text with no `:`, the character a key joins its parts with. -/
def NoColon (s : String) : Prop := ':' ∉ s.toList

instance : DecidablePred NoColon := fun s => inferInstanceAs (Decidable (':' ∉ s.toList))

namespace EntryKey

/-- A key whose text keeps its parts apart: one of the three scopes a check consults, a symbol in
upper case, parts without `:`, and a trader only in the trader scope. -/
structure Plain (k : EntryKey) : Prop where
  scope : k.scope ∈ Scope.checkOrder
  upper : String.toUpperSimple k.symbol = k.symbol
  symbol : NoColon k.symbol
  trader : NoColon k.trader
  solo : k.scope ≠ .symbolTrader → k.trader = ""

theorem plain_of {scope : Scope} {symbol trader : String} (hscope : scope ∈ Scope.checkOrder)
    (hsymbol : NoColon symbol) (htrader : NoColon trader) : (EntryKey.of scope symbol trader).Plain where
  scope := hscope
  upper := String.toUpperSimple_toUpperSimple symbol
  symbol := fun h => hsymbol (String.colon_mem_of_toUpperSimple h)
  trader := by
    unfold EntryKey.of
    split
    · exact htrader
    · simp [NoColon]
  solo := by
    intro h
    have hne : scope ≠ .symbolTrader := h
    simp [EntryKey.of, hne]

/-- The text a check looks a key up by is the text the key's entry is filed under: upper case
is idempotent. -/
theorem text_of (scope : Scope) (symbol trader : String) :
    (EntryKey.of scope symbol trader).text = cooldownKey scope symbol trader := by
  unfold text of cooldownKey
  simp only [String.toUpperSimple_toUpperSimple]
  split <;> simp_all

theorem text_of_entry (scope : Scope) (symbol trader : String) :
    cooldownKey scope (String.toUpperSimple symbol)
        (if (scope == Scope.symbolTrader) = true then trader else "") =
      (EntryKey.of scope symbol trader).text := rfl

/-- The parts of a key, as the text joins them. -/
def parts (k : EntryKey) : List (List Char) :=
  if k.scope = .symbolTrader then [k.scope.text.toList, k.symbol.toList, k.trader.toList]
  else [k.scope.text.toList, k.symbol.toList]

theorem text_toList {k : EntryKey} (hk : k.Plain) : k.text.toList = [':'].intercalate k.parts := by
  unfold text cooldownKey parts
  rw [hk.upper]
  by_cases hs : k.scope = .symbolTrader
  · simp [hs, String.toList_append, List.intercalate]
  · have hs' : (k.scope == .symbolTrader) = false := by simpa using hs
    simp [hs, hs', String.toList_append, List.intercalate]

theorem parts_colon_free {k : EntryKey} (hk : k.Plain) : ∀ l ∈ k.parts, ':' ∉ l := by
  have hscope : ':' ∉ k.scope.text.toList := by
    have h := hk.scope
    simp only [Scope.checkOrder, List.mem_cons, List.not_mem_nil, or_false] at h
    rcases h with h | h | h <;> rw [h] <;> decide
  have hsymbol : ':' ∉ k.symbol.toList := hk.symbol
  have htrader : ':' ∉ k.trader.toList := hk.trader
  unfold parts
  split <;> simp [hscope, hsymbol, htrader]

/-- On plain keys the text is faithful: two keys filed under one text are one key. -/
theorem text_inj {k₁ k₂ : EntryKey} (h₁ : k₁.Plain) (h₂ : k₂.Plain) (h : k₁.text = k₂.text) :
    k₁ = k₂ := by
  have hparts : k₁.parts = k₂.parts := by
    have hl := congrArg String.toList h
    rw [text_toList h₁, text_toList h₂] at hl
    rw [← List.splitOn_intercalate ':' (parts_colon_free h₁) (by unfold parts; split <;> simp),
      ← List.splitOn_intercalate ':' (parts_colon_free h₂) (by unfold parts; split <;> simp), hl]
  obtain ⟨scope₁, symbol₁, trader₁⟩ := k₁
  obtain ⟨scope₂, symbol₂, trader₂⟩ := k₂
  have hscope₁ := h₁.scope
  have hscope₂ := h₂.scope
  simp only [Scope.checkOrder, List.mem_cons, List.not_mem_nil, or_false] at hscope₁ hscope₂
  -- the scopes' names are apart, so the first parts give the scope
  rcases hscope₁ with rfl | rfl | rfl <;> rcases hscope₂ with rfl | rfl | rfl <;>
    simp [parts, Scope.text] at hparts
  · have ht₁ : trader₁ = "" := h₁.solo (by simp)
    have ht₂ : trader₂ = "" := h₂.solo (by simp)
    rw [String.toList_inj.1 hparts, ht₁, ht₂]
  · rw [String.toList_inj.1 hparts.1, String.toList_inj.1 hparts.2]
  · have ht₁ : trader₁ = "" := h₁.solo (by simp)
    have ht₂ : trader₂ = "" := h₂.solo (by simp)
    rw [String.toList_inj.1 hparts, ht₁, ht₂]

end EntryKey

/-! ### The refinement -/

/-- How the table's entry for a key stands to the map's end at `now`: both are absent, or the
map's end has passed while the table holds nothing, or an entry filed for the key ends at the
map's end, or both ends have passed. Ended entries may have been evicted, and a later set may
have kept an older ended end on one side only; a check tells none of these apart. -/
def EntryAgrees (now : Instant) (k : EntryKey) : Option Cooldown → Option Instant → Prop
  | none, none => True
  | none, some e => e.toMs ≤ now.toMs
  | some _, none => False
  | some c, some e => c.scope = k.scope ∧ c.symbol = k.symbol ∧ c.traderId = k.trader ∧
      (c.endTime = e ∨ (c.endTime.toMs ≤ now.toMs ∧ e.toMs ≤ now.toMs))

/-- The table refines the map at `now`: one entry per key, and every plain key agrees. -/
structure Refines (now : Instant) (b : Cooldowns) (A : EntryKey → Option Instant) : Prop where
  nodup : (b.entries.map (·.1)).Nodup
  agrees : ∀ k, k.Plain → EntryAgrees now k (b.find? k.text) (A k)

theorem EntryAgrees.mono {now now' : Instant} {k : EntryKey} {c : Option Cooldown}
    {e : Option Instant} (h : EntryAgrees now k c e) (hle : now.toMs ≤ now'.toMs) :
    EntryAgrees now' k c e := by
  match c, e, h with
  | none, none, _ => trivial
  | none, some _, h => exact Int.le_trans h hle
  | some _, some _, ⟨hs, hy, ht, hend⟩ =>
    refine ⟨hs, hy, ht, ?_⟩
    rcases hend with hend | ⟨hc, he⟩
    · exact .inl hend
    · exact .inr ⟨Int.le_trans hc hle, Int.le_trans he hle⟩

theorem Refines.mono {now now' : Instant} {b : Cooldowns} {A : EntryKey → Option Instant}
    (h : Refines now b A) (hle : now.toMs ≤ now'.toMs) : Refines now' b A :=
  ⟨h.nodup, fun k hk => (h.agrees k hk).mono hle⟩

theorem Refines.empty (now : Instant) (b : Cooldowns) (hb : b.entries = []) :
    Refines now b fun _ => none where
  nodup := by simp [hb]
  agrees k _ := by simp [Cooldowns.find?, hb, EntryAgrees]

/-- An ended entry may be evicted: the map's end for its key has passed too. -/
theorem EntryAgrees.evict {now : Instant} {k : EntryKey} {c : Cooldown} {e : Option Instant}
    (h : EntryAgrees now k (some c) e) (hended : c.endedAt now = true) :
    EntryAgrees now k none e := by
  have hend : c.endTime.toMs ≤ now.toMs := by simpa [Cooldown.endedAt] using hended
  match e, h with
  | some e, ⟨_, _, _, hend'⟩ =>
    show e.toMs ≤ now.toMs
    rcases hend' with hsame | ⟨_, he⟩
    · exact hsame ▸ hend
    · exact he

/-- Keeping a table entry that ends after the new end: the map's later end agrees with it. -/
theorem EntryAgrees.install_keep {now : Instant} {k : EntryKey} {prev : Cooldown}
    {a : Option Instant} (h : EntryAgrees now k (some prev) a) {e : Instant}
    (hlater : prev.endTime.toMs > e.toMs) :
    EntryAgrees now k (some prev) (some (laterEnd a e)) := by
  match a, h with
  | some a, ⟨hs, hy, ht, hend⟩ =>
    refine ⟨hs, hy, ht, ?_⟩
    rw [laterEnd_some]
    rcases hend with rfl | ⟨hp, ha⟩
    · exact .inl (if_pos hlater).symm
    · right
      split <;> omega

/-- Filing a new entry when no table entry ends after it: the map's later end agrees. -/
theorem EntryAgrees.install_new {now : Instant} {k : EntryKey} {old : Option Cooldown}
    {a : Option Instant} (h : EntryAgrees now k old a) {c : Cooldown}
    (hfield : c.scope = k.scope ∧ c.symbol = k.symbol ∧ c.traderId = k.trader)
    (hnot : ∀ prev, old = some prev → ¬ prev.endTime.toMs > c.endTime.toMs) :
    EntryAgrees now k (some c) (some (laterEnd a c.endTime)) := by
  obtain ⟨hs, hy, ht⟩ := hfield
  refine ⟨hs, hy, ht, ?_⟩
  match old, a, h with
  | none, none, _ => exact .inl rfl
  | none, some a, ha =>
    -- an evicted end: it had passed, so whichever end the map keeps agrees
    have ha : a.toMs ≤ now.toMs := ha
    rw [laterEnd_some]
    split
    · right; omega
    · exact .inl rfl
  | some prev, some a, ⟨_, _, _, hend⟩ =>
    have hle := hnot prev rfl
    rw [laterEnd_some]
    rcases hend with rfl | ⟨hp, ha⟩
    · exact .inl (if_neg hle).symm
    · split
      · right; omega
      · exact .inl rfl

/-- A change to one plain key's entry and end, with every other key's left alone, keeps the
refinement when the changed key agrees: plain keys have texts apart. -/
theorem Refines.frame {now : Instant} {b b' : Cooldowns} {A A' : EntryKey → Option Instant}
    (h : Refines now b A) {k₀ : EntryKey} (hk₀ : k₀.Plain)
    (hnodup : (b'.entries.map (·.1)).Nodup)
    (hother : ∀ t, t ≠ k₀.text → b'.find? t = b.find? t)
    (hA : ∀ k, k ≠ k₀ → A' k = A k)
    (hself : EntryAgrees now k₀ (b'.find? k₀.text) (A' k₀)) : Refines now b' A' where
  nodup := hnodup
  agrees k hk := by
    by_cases hkk : k = k₀
    · subst hkk
      exact hself
    · rw [hother k.text fun ht => hkk (EntryKey.text_inj hk hk₀ ht), hA k hkk]
      exact h.agrees k hk

/-- An entry that has ended may go: evictions never change what a check reports. -/
theorem Refines.remove_ended {now : Instant} {b : Cooldowns} {A : EntryKey → Option Instant}
    (h : Refines now b A) {t : String} {c : Cooldown} (hc : b.find? t = some c)
    (hended : c.endedAt now = true) : Refines now (b.remove t) A where
  nodup := Cooldowns.remove_nodup b t h.nodup
  agrees k hk := by
    rw [Cooldowns.find?_remove]
    split
    · next hkt =>
      have hagree := h.agrees k hk
      rw [hkt, hc] at hagree
      exact hagree.evict hended
    · exact h.agrees k hk

/-! ### One operation -/

section Step

variable {now : Instant} {b : Cooldowns} {A : EntryKey → Option Instant}

theorem MaxEnds.install_self (k : EntryKey) (e : Instant) :
    MaxEnds.install A k e k = some (laterEnd (A k) e) := if_pos rfl

theorem MaxEnds.install_ne {k k' : EntryKey} (e : Instant) (h : k' ≠ k) :
    MaxEnds.install A k e k' = A k' := if_neg h

/-- Filing a new entry for a plain key, when no entry of the key ends after it. -/
theorem Refines.put_new (h : Refines now b A) {k : EntryKey} (hk : k.Plain) {c : Cooldown}
    (hfield : c.scope = k.scope ∧ c.symbol = k.symbol ∧ c.traderId = k.trader)
    (hnot : ∀ prev, b.find? k.text = some prev → ¬ prev.endTime.toMs > c.endTime.toMs)
    (call : PersistCall) :
    Refines now ((b.put k.text c).persist call) (MaxEnds.install A k c.endTime) := by
  refine h.frame hk ?_ (fun t ht => ?_) (fun k' hk' => MaxEnds.install_ne _ hk') ?_
  · rw [Cooldowns.persist_entries]
    exact Cooldowns.put_nodup b _ c h.nodup
  · rw [Cooldowns.find?_persist, Cooldowns.find?_put, if_neg ht]
  · rw [Cooldowns.find?_persist, Cooldowns.find?_put, if_pos rfl, MaxEnds.install_self]
    exact (h.agrees k hk).install_new hfield hnot

/-- Keeping an entry that ends after the new end. -/
theorem Refines.keep (h : Refines now b A) {k : EntryKey} (hk : k.Plain) {prev : Cooldown}
    (hprev : b.find? k.text = some prev) {e : Instant} (hlater : prev.endTime.toMs > e.toMs) :
    Refines now b (MaxEnds.install A k e) := by
  refine h.frame hk h.nodup (fun _ _ => rfl) (fun k' hk' => MaxEnds.install_ne _ hk') ?_
  rw [hprev, MaxEnds.install_self]
  have hagree := h.agrees k hk
  rw [hprev] at hagree
  exact hagree.install_keep hlater

theorem Refines.setUntil (h : Refines now b A) {scope : Scope} {symbol trader : String}
    (hk : (EntryKey.of scope symbol trader).Plain) (e : Instant) (reason : String) :
    Refines now (b.setUntil now scope symbol trader e reason).1
      (MaxEnds.install A (.of scope symbol trader) e) := by
  cases hf : b.find? (EntryKey.of scope symbol trader).text with
  | none =>
    simp only [Cooldowns.setUntil, Cooldown.key, EntryKey.text_of_entry, hf]
    exact h.put_new hk ⟨rfl, rfl, rfl⟩ (fun p hp => by simp_all) _
  | some prev =>
    simp only [Cooldowns.setUntil, Cooldown.key, EntryKey.text_of_entry, hf]
    by_cases hlater : prev.endTime.toMs > e.toMs
    · simp only [hlater, if_true]
      exact h.keep hk hf hlater
    · simp only [hlater, if_false]
      exact h.put_new hk ⟨rfl, rfl, rfl⟩ (fun p hp => by simp_all) _

theorem Cooldowns.setFor_eq (b : Cooldowns) (now : Instant) (scope : Scope)
    (symbol trader : String) (d : Duration) (reason : String) :
    b.setFor now scope symbol trader d reason =
      b.setUntil now scope symbol trader
        (now.addDuration (orDefault d (b.defaults.forScope scope))) reason := by
  cases scope <;> rfl

theorem Refines.clear (h : Refines now b A) {scope : Scope} {symbol trader : String}
    (hk : (EntryKey.of scope symbol trader).Plain) :
    Refines now (b.clear scope symbol trader).1
      fun k => if k = .of scope symbol trader then none else A k := by
  have hremove : ∀ call, Refines now ((b.remove (EntryKey.of scope symbol trader).text).persist call)
      fun k => if k = .of scope symbol trader then none else A k := by
    intro call
    refine h.frame hk ?_ (fun t ht => ?_) (fun k' hk' => if_neg hk') ?_
    · rw [Cooldowns.persist_entries]
      exact Cooldowns.remove_nodup b _ h.nodup
    · rw [Cooldowns.find?_persist, Cooldowns.find?_remove, if_neg ht]
    · rw [Cooldowns.find?_persist, Cooldowns.find?_remove, if_pos rfl, if_pos rfl]
      trivial
  unfold Cooldowns.clear
  rw [← EntryKey.text_of]
  dsimp only
  split
  · exact hremove _
  · next hnone =>
    refine h.frame hk h.nodup (fun _ _ => rfl) (fun k' hk' => if_neg hk') ?_
    rw [hnone, if_pos rfl]
    trivial

theorem Refines.cleanup (h : Refines now b A) : Refines now (b.cleanup now).1 A where
  nodup := Cooldowns.cleanup_nodup b now h.nodup
  agrees k hk := by
    rw [Cooldowns.find?_cleanup b now _ h.nodup]
    have hagree := h.agrees k hk
    match hc : b.find? k.text, hagree with
    | none, hagree => exact hagree
    | some c, hagree =>
      by_cases hended : c.endedAt now = true
      · simpa [Option.filter, hended] using hagree.evict hended
      · simpa [Option.filter, hended] using hagree

end Step

/-! ### Checks -/

section Check

variable {now : Instant} {A : EntryKey → Option Instant} {symbol trader : String}

/-- A check evicts only ended entries, so it keeps the refinement whatever it is asked. -/
theorem Refines.check_go :
    ∀ (scopes : List Scope) (b : Cooldowns), Refines now b A →
      Refines now (Cooldowns.check.go now symbol trader b scopes).1 A
  | [], _, h => h
  | scope :: rest, b, h => by
    unfold Cooldowns.check.go
    split
    · exact Refines.check_go rest b h
    · dsimp only
      split
      · exact Refines.check_go rest b h
      · next c hc =>
        split
        · exact Refines.check_go rest _ (h.remove_ended hc ‹_›)
        · exact h

theorem Refines.check {b : Cooldowns} (h : Refines now b A) :
    Refines now (b.check now symbol trader).1 A :=
  Refines.check_go Scope.checkOrder b h

/-- Scope by scope, a check of a plain symbol and trader answers what the map's live ends
give. -/
theorem Refines.check_go_report (hsymbol : NoColon symbol) (htrader : NoColon trader) :
    ∀ (scopes : List Scope), (∀ s ∈ scopes, s ∈ Scope.checkOrder) →
      ∀ (b : Cooldowns), Refines now b A →
      (Cooldowns.check.go now symbol trader b scopes).2.map Cooldown.report =
        (scopes.findSome? (MaxEnds.live A now symbol trader)).map
          (MaxEnds.report now symbol trader)
  | [], _, _, _ => rfl
  | scope :: rest, hscopes, b, h => by
    have ih := Refines.check_go_report hsymbol htrader rest
      (fun s hs => hscopes s (List.mem_cons_of_mem _ hs))
    rw [List.findSome?_cons, MaxEnds.live]
    unfold Cooldowns.check.go
    by_cases hskip : (scope == .symbolTrader && trader == "") = true
    · simp only [hskip, if_true]
      exact ih b h
    simp only [hskip, if_false, Bool.false_eq_true]
    have hk := EntryKey.plain_of (hscopes scope List.mem_cons_self) hsymbol htrader
    have hagree := h.agrees _ hk
    rw [← EntryKey.text_of]
    generalize hc : b.find? (EntryKey.of scope symbol trader).text = oc at hagree ⊢
    generalize A (EntryKey.of scope symbol trader) = oe at hagree ⊢
    match oc, oe, hagree with
    | none, none, _ => exact ih b h
    | none, some e, hpast =>
      have hpast : e.toMs ≤ now.toMs := hpast
      have hnot : ¬ now.toMs < e.toMs := by omega
      simp only [hnot, if_false]
      exact ih b h
    | some c, some e, ⟨hs, hy, ht, hend⟩ =>
      by_cases hlive : now.toMs < c.endTime.toMs
      · -- a live entry: its end is the map's, and it is answered
        have hsame : c.endTime = e := by
          rcases hend with hsame | ⟨hc, _⟩
          · exact hsame
          · omega
        have hended : c.endedAt now = false := by simpa [Cooldown.endedAt] using hlive
        subst hsame
        simp only [hended, hlive, if_true, Bool.false_eq_true, if_false, Option.map_some]
        simp [Cooldown.report, MaxEnds.report, hs, hy, ht, EntryKey.of]
      · -- an ended entry is evicted, and the map's end has passed too
        have hended : c.endedAt now = true := by simpa [Cooldown.endedAt] using hlive
        have hnot : ¬ now.toMs < e.toMs := by
          rcases hend with rfl | ⟨_, he⟩
          · exact hlive
          · omega
        simp only [hended, hnot, if_true, if_false]
        exact ih _ (h.remove_ended hc hended)

end Check

/-! ### Default lengths -/

namespace Cooldowns

theorem persist_defaults (b : Cooldowns) (call : PersistCall) :
    (b.persist call).defaults = b.defaults := by
  unfold persist
  split <;> rfl

theorem setUntil_defaults (b : Cooldowns) (now : Instant) (scope : Scope) (symbol trader : String)
    (e : Instant) (reason : String) :
    (b.setUntil now scope symbol trader e reason).1.defaults = b.defaults := by
  cases hf : b.find? (EntryKey.of scope symbol trader).text with
  | none =>
    simp only [setUntil, Cooldown.key, EntryKey.text_of_entry, hf]
    exact persist_defaults _ _
  | some prev =>
    simp only [setUntil, Cooldown.key, EntryKey.text_of_entry, hf]
    by_cases hlater : prev.endTime.toMs > e.toMs
    · simp only [hlater, if_true]
    · simp only [hlater, if_false]
      exact persist_defaults _ _

theorem check_go_defaults (now : Instant) (symbol trader : String) :
    ∀ (b : Cooldowns) (scopes : List Scope),
      (check.go now symbol trader b scopes).1.defaults = b.defaults
  | _, [] => rfl
  | b, scope :: rest => by
    unfold check.go
    split
    · exact check_go_defaults now symbol trader b rest
    · dsimp only
      split
      · exact check_go_defaults now symbol trader b rest
      · split
        · exact check_go_defaults now symbol trader _ rest
        · rfl

theorem perform_defaults (b : Cooldowns) (now : Instant) (op : CooldownOp) :
    (b.perform now op).defaults = b.defaults := by
  cases op with
  | setFor scope symbol trader d reason =>
    rw [perform, setFor_eq]
    exact setUntil_defaults ..
  | setUntil => exact setUntil_defaults ..
  | clear scope symbol trader =>
    unfold perform clear
    dsimp only
    split
    · exact persist_defaults _ _
    · rfl
  | cleanup => rfl
  | check symbol trader => exact check_go_defaults ..
  | active => rfl

end Cooldowns

/-! ### Runs -/

/-- One operation, at an instant no earlier than the refinement's, keeps it. -/
theorem Refines.perform {t now : Instant} {b : Cooldowns} {A : EntryKey → Option Instant}
    (h : Refines t b A) (hle : t.toMs ≤ now.toMs) (op : CooldownOp)
    (hop : ∀ k ∈ op.key?, k.Plain) :
    Refines now (b.perform now op) (MaxEnds.perform b.defaults A now op) := by
  have h' := h.mono hle
  cases op with
  | setFor scope symbol trader d reason =>
    rw [Cooldowns.perform, Cooldowns.setFor_eq]
    exact h'.setUntil (hop _ rfl) _ _
  | setUntil scope symbol trader e reason => exact h'.setUntil (hop _ rfl) _ _
  | clear scope symbol trader => exact h'.clear (hop _ rfl)
  | cleanup => exact h'.cleanup
  | check symbol trader => exact h'.check
  | active symbol trader => exact h'

/-- A run under a clock that never goes back keeps the refinement, from an instant no later
than its first operation to one no earlier than its last. -/
theorem Refines.performAll :
    ∀ (ops : List (Instant × CooldownOp)) (b : Cooldowns) (A : EntryKey → Option Instant)
      (t : Instant), Refines t b A → (∀ p ∈ ops, t.toMs ≤ p.1.toMs) →
      ops.Pairwise (fun p q => p.1.toMs ≤ q.1.toMs) → (∀ p ∈ ops, ∀ k ∈ p.2.key?, k.Plain) →
      ∀ now : Instant, t.toMs ≤ now.toMs → (∀ p ∈ ops, p.1.toMs ≤ now.toMs) →
      Refines now (b.performAll ops)
        (ops.foldl (fun A p => MaxEnds.perform b.defaults A p.1 p.2) A)
  | [], _, _, _, h, _, _, _, _, hnow, _ => h.mono hnow
  | (t₁, op) :: rest, b, A, t, h, hstart, hclock, hplain, now, _, hend => by
    rw [List.pairwise_cons] at hclock
    have h₁ := h.perform (hstart _ List.mem_cons_self) op (hplain _ List.mem_cons_self)
    have ih := Refines.performAll rest _ _ t₁ h₁ (fun p hp => hclock.1 p hp) hclock.2
      (fun p hp => hplain p (List.mem_cons_of_mem _ hp)) now (hend _ List.mem_cons_self)
      (fun p hp => hend p (List.mem_cons_of_mem _ hp))
    rw [Cooldowns.perform_defaults] at ih
    exact ih

/-- The cooldown table refines the max-end map. After any run from an empty table under a
clock that never goes back, whose sets and clears name keys whose texts keep their parts
apart, a check of a symbol and trader without `:` reports exactly what the map gives: the
first scope in the check's order whose key's latest end since its last clear is after `now`,
with the key's parts, that end, and the time left until it. -/
theorem Cooldowns.check_refines_maxEnds (b : Cooldowns) (hb : b.entries = [])
    (ops : List (Instant × CooldownOp)) (hclock : ops.Pairwise (fun p q => p.1.toMs ≤ q.1.toMs))
    (hplain : ∀ p ∈ ops, ∀ k ∈ p.2.key?, k.Plain) (now : Instant)
    (hnow : ∀ p ∈ ops, p.1.toMs ≤ now.toMs) (symbol trader : String) (hsymbol : NoColon symbol)
    (htrader : NoColon trader) :
    ((b.performAll ops).check now symbol trader).2.map Cooldown.report =
      (MaxEnds.check (MaxEnds.performAll b.defaults ops) now symbol trader).map
        (MaxEnds.report now symbol trader) := by
  have hrun : Refines now (b.performAll ops) (MaxEnds.performAll b.defaults ops) := by
    cases ops with
    | nil => exact Refines.empty now b hb
    | cons p rest =>
      -- the run starts at its first operation's instant, where the empty table refines
      have hfirst : ∀ q ∈ p :: rest, p.1.toMs ≤ q.1.toMs := by
        intro q hq
        rcases List.mem_cons.1 hq with rfl | hq
        · exact Int.le_refl _
        · exact (List.pairwise_cons.1 hclock).1 q hq
      exact Refines.performAll (p :: rest) b _ p.1 (Refines.empty _ b hb) hfirst hclock hplain now
        (hnow p List.mem_cons_self) hnow
  exact hrun.check_go_report hsymbol htrader Scope.checkOrder (fun _ hs => hs) _

/-- A run of a symbol cooldown and a later trader cooldown, checked while both are live: the
table answers the symbol scope, as the map does. -/
theorem symbol_before_trader_check_agrees :
    ((({} : Cooldowns).performAll
        [(some 1790856000000, .setFor .symbol "btc" "" (Duration.ofMs 60000) "r"),
         (some 1790856010000, .setUntil .symbolTrader "BTC" "alice" (some 1790856100000) "r")]).check
        (some 1790856030000) "BTC" "alice").2.map Cooldown.report =
      (MaxEnds.check (MaxEnds.performAll {}
        [(some 1790856000000, .setFor .symbol "btc" "" (Duration.ofMs 60000) "r"),
         (some 1790856010000, .setUntil .symbolTrader "BTC" "alice" (some 1790856100000) "r")])
        (some 1790856030000) "BTC" "alice").map (MaxEnds.report (some 1790856030000) "BTC" "alice") :=
  Cooldowns.check_refines_maxEnds {} rfl _ (by decide)
    (fun p hp k hk => by
      simp only [List.mem_cons, List.not_mem_nil, or_false] at hp
      rcases hp with rfl | rfl <;> cases hk <;>
        exact EntryKey.plain_of (by decide) (by decide) (by decide))
    _ (by decide) _ _ (by decide) (by decide)

/-- A trader cooldown on symbol `A:B` for trader `C` is filed under the text a check of symbol
`A` for trader `B:C` looks up, so that check reports it, while the map holds nothing for the
key the check names. -/
theorem Cooldowns.check_reports_aliased_trader :
    ((({} : Cooldowns).performAll
        [(some 1790856000000, .setFor .symbolTrader "A:B" "C" (Duration.ofMs 60000) "r")]).check
        (some 1790856000000) "A" "B:C").2.map Cooldown.report =
      some (.symbolTrader, "A:B", "C", some 1790856060000, Duration.ofMs 60000) ∧
    MaxEnds.check (MaxEnds.performAll {}
        [(some 1790856000000, .setFor .symbolTrader "A:B" "C" (Duration.ofMs 60000) "r")])
        (some 1790856000000) "A" "B:C" = none := by
  decide +kernel

end TradeLedger
