import TradeLedger.Stream.ListenKey
import TradeLedger.Proofs.Venue.RoundTrips
/-!
# When the refresh loop keeps a listen key alive

The refresh loop waits until the key is due, refreshes it and starts over: a success sets the
expiry one life later and the next wait runs to the expiry less the lead; a failure waits the
retry interval. A negative wait is cut to nothing. The loop's clock counts milliseconds, so the
statements take configurations in whole milliseconds within the 64-bit range.

The defaults repair a bad lead to five minutes, unchecked against the life, so a key living four
minutes is refreshed again at once after every success.

## Main definitions

* `ListenKeys.Pass`, `ListenKeys.passes`: the passes of the loop.
* `ListenKeys.Spaced`: two consecutive passes spaced as the configuration says.

## Theorems

* `ListenKeys.refresh_spec`: a successful refresh starts a full life.
* `ListenKeys.passes_spaced`, `run_refreshes_spaced`: with a lead shorter than the life,
  consecutive passes are spaced.
* `ListenKeys.acquired_passes_spaced`: the first refresh after an acquisition is spaced from it.
* `short_life_refreshes_back_to_back`: a four-minute key is refreshed without waiting.
-/

namespace TradeLedger

namespace ListenKeyConfig

/-- The configuration's durations are whole milliseconds within the 64-bit range. -/
def WholeMs (c : ListenKeyConfig) : Prop :=
  ∀ d ∈ [c.ttl, c.refreshBefore, c.retryInterval], Duration.perMs ∣ d ∧ d ≤ Duration.max

instance (c : ListenKeyConfig) : Decidable c.WholeMs :=
  inferInstanceAs (Decidable (∀ d ∈ _, _))

/-- The defaults keep whole milliseconds and make every duration positive. -/
theorem withDefaults_wholeMs {c : ListenKeyConfig} (h : c.WholeMs) :
    c.withDefaults.WholeMs ∧ 0 < c.withDefaults.ttl ∧ 0 < c.withDefaults.refreshBefore ∧
      0 < c.withDefaults.retryInterval := by
  simp only [WholeMs, List.mem_cons, List.not_mem_nil, or_false, forall_eq_or_imp,
    forall_eq] at h ⊢
  obtain ⟨httl, hlead, hretry⟩ := h
  simp only [withDefaults, Duration.ofMs, Duration.perMs, Duration.max] at httl hlead hretry ⊢
  refine ⟨⟨?_, ?_, ?_⟩, ?_, ?_, ?_⟩ <;> split_ifs <;> simp_all

end ListenKeyConfig

theorem Duration.toMs_mul_perMs {d : Int} (h : Duration.perMs ∣ d) :
    Duration.toMs d * Duration.perMs = d :=
  Int.tdiv_mul_cancel h

theorem Duration.toMs_pos {d : Int} (h : Duration.perMs ∣ d) (hd : 0 < d) :
    0 < Duration.toMs d := by
  obtain ⟨k, rfl⟩ := h
  rw [Duration.toMs, Int.mul_tdiv_cancel_left _ (by decide)]
  simp only [Duration.perMs] at hd
  omega

theorem Duration.toMs_nonneg {d : Int} (hd : 0 ≤ d) : 0 ≤ Duration.toMs d :=
  Int.tdiv_nonneg hd (by decide)

theorem Duration.saturate_of_mem {d : Int} (hlo : Duration.min ≤ d) (hhi : d ≤ Duration.max) :
    Duration.saturate d = d := by
  simp [Duration.saturate, Int.not_lt.2 hlo, Int.not_lt.2 hhi]

theorem Instant.addMs_toMs (t : Instant) (ms : Int) : (t.addMs ms).toMs = t.toMs + ms := by
  simp [Instant.addMs]

theorem Instant.ofMs_isSome {x : Int} (hx : x ≠ Instant.zeroMs) : (Instant.ofMs x).isSome := by
  simp [Instant.ofMs, hx]

/-- A repaired configuration in whole milliseconds whose lead is shorter than its life, read in
milliseconds: a positive lead below the life, a life less the lead that fits a duration, and a
positive retry interval. -/
theorem ListenKeyConfig.withDefaults_ms {cfg : ListenKeyConfig} (hms : cfg.WholeMs)
    (hlead : cfg.withDefaults.refreshBefore < cfg.withDefaults.ttl) :
    0 < Duration.toMs cfg.withDefaults.refreshBefore ∧
      Duration.toMs cfg.withDefaults.refreshBefore < Duration.toMs cfg.withDefaults.ttl ∧
      (Duration.toMs cfg.withDefaults.ttl - Duration.toMs cfg.withDefaults.refreshBefore) *
        Duration.perMs ≤ Duration.max ∧
      0 < cfg.withDefaults.retryInterval ∧ 0 < Duration.toMs cfg.withDefaults.retryInterval := by
  obtain ⟨hwhole, -, hlead0, hretry⟩ := ListenKeyConfig.withDefaults_wholeMs hms
  simp only [ListenKeyConfig.WholeMs, List.mem_cons, List.not_mem_nil, or_false,
    forall_eq_or_imp, forall_eq] at hwhole
  obtain ⟨⟨hLd, hLmax⟩, ⟨hBd, -⟩, ⟨hRd, -⟩⟩ := hwhole
  have hL' := Duration.toMs_mul_perMs hLd
  have hB' := Duration.toMs_mul_perMs hBd
  -- `Duration` is `Int` by name only, which `omega` does not look through
  have hlead' := Int.sub_pos.2 hlead
  have hLmax' := Int.sub_nonneg.2 hLmax
  have hB0 := Duration.toMs_pos hBd hlead0
  simp only [Duration.perMs] at hL' hB' ⊢
  exact ⟨hB0, by omega, by omega, hretry, Duration.toMs_pos hRd hretry⟩

namespace ListenKeys

variable {κ : Type}

/-! ### A refresh -/

theorem acquire_spec (m : ListenKeys) (c : KeyClient κ) (s : κ) (now : Instant) :
    (m.acquire c s now).1.config = m.config ∧ ∀ k, (m.acquire c s now).2.2 = .ok k →
      (m.acquire c s now).1.expiresAt = now.addMs (Duration.toMs m.config.ttl) := by
  unfold acquire
  rcases c.create s with ⟨s', _ | key⟩
  · refine ⟨?_, fun k hk => by simp at hk⟩
    dsimp only
    split <;> rfl
  · exact ⟨rfl, fun _ _ => rfl⟩

theorem rotate_spec (m : ListenKeys) (c : KeyClient κ) (s : κ) (now : Instant) :
    (m.rotate c s now).1.config = m.config ∧ (m.rotate c s now).2.2 = (m.acquire c s now).2.2 ∧
      (m.rotate c s now).1.expiresAt = (m.acquire c s now).1.expiresAt := by
  have ⟨hcfg, _⟩ := acquire_spec m c s now
  unfold rotate
  rcases hacq : m.acquire c s now with ⟨m', s', _ | key⟩ <;> rw [hacq] at hcfg <;>
    exact ⟨hcfg, rfl, rfl⟩

/-- A rotation answers as its acquisition, which restarts the life when it succeeds. -/
theorem rotate_unit_spec (m : ListenKeys) (c : KeyClient κ) (s : κ) (now : Instant) :
    (m.rotate c s now).1.config = m.config ∧
      ((m.rotate c s now).2.2.map (fun _ => ()) = .ok () →
        (m.rotate c s now).1.expiresAt = now.addMs (Duration.toMs m.config.ttl)) := by
  obtain ⟨hcfg, hres, hexp⟩ := rotate_spec m c s now
  refine ⟨hcfg, fun h => ?_⟩
  rw [hres] at h
  rcases hr : (m.acquire c s now).2.2 with _ | k <;> rw [hr] at h
  · cases h
  · rw [hexp]
    exact (acquire_spec m c s now).2 k hr

/-- A refresh keeps the configuration, and one that succeeds, by keeping the key alive or by
acquiring a new one, starts a full life at the instant of the refresh. -/
theorem refresh_spec (m : ListenKeys) (c : KeyClient κ) (s : κ) (now : Instant) :
    (m.refresh c s now).1.config = m.config ∧ ((m.refresh c s now).2.2 = .ok () →
      (m.refresh c s now).1.expiresAt = now.addMs (Duration.toMs m.config.ttl)) := by
  unfold refresh
  by_cases hkey : (m.key == "") = true
  · rw [if_pos hkey]
    exact rotate_unit_spec m c s now
  rw [if_neg hkey]
  rcases c.keepAlive s m.key with ⟨s', _ | _⟩
  · dsimp only
    split
    · exact rotate_unit_spec m c s' now
    · exact ⟨rfl, fun h => by cases h⟩
  · exact ⟨rfl, fun _ => rfl⟩

/-! ### The passes of the loop -/

/-- One pass of the refresh loop: how long it waited, the instant it refreshed at, whether the
refresh succeeded, and the key's expiry after it. -/
structure Pass where
  wait : Duration
  time : Instant
  ok : Bool
  expiresAt : Instant
  deriving DecidableEq

/-- The passes the refresh loop makes with `fuel` waits left and the wait pending. -/
def passes (c : KeyClient κ) : ListenKeys → κ → Instant → Nat → Duration → List Pass
  | _, _, _, 0, _ => []
  | m, s, now, fuel + 1, pending =>
    let wait := m.waitFor now pending
    let now := now.addMs (Duration.toMs wait)
    match m.refresh c s now with
    | (m, s, .ok ()) => ⟨wait, now, true, m.expiresAt⟩ :: passes c m s now fuel 0
    | (m, s, .error _) =>
      ⟨wait, now, false, m.expiresAt⟩ :: passes c m s now fuel m.config.retryInterval

/-- The loop's log is the waits of its passes. -/
theorem go_log (c : KeyClient κ) (m : ListenKeys) (s : κ) (now : Instant) (fuel : Nat)
    (pending : Duration) (log : List Duration) :
    (run.go c m s now fuel pending log).2.2.1 = log ++ (passes c m s now fuel pending).map (·.wait) := by
  induction fuel generalizing m s now pending log with
  | zero => simp [run.go, passes]
  | succ fuel ih =>
    simp only [run.go, passes]
    rcases m.refresh c s (now.addMs (Duration.toMs (m.waitFor now pending))) with
      ⟨m', s', _ | _⟩ <;> simp [ih]

theorem run_waits (m : ListenKeys) (c : KeyClient κ) (s : κ) (now : Instant) (n : Nat) :
    (m.run c s now n).2.2.1 = (passes c m s now n 0).map (·.wait) := by
  simp [run, go_log]

/-- Two consecutive passes spaced as `cfg` says: the later refreshes strictly after the
earlier, as long after it as it waited; after a success, at the expiry it set (one life later)
less the lead, before that expiry; after a failure, the retry interval later. -/
def Spaced (cfg : ListenKeyConfig) (p q : Pass) : Prop :=
  p.time.toMs < q.time.toMs ∧ q.time = p.time.addMs (Duration.toMs q.wait) ∧
    if p.ok then
      p.expiresAt = p.time.addMs (Duration.toMs cfg.ttl) ∧
        q.time = p.expiresAt.addMs (-Duration.toMs cfg.refreshBefore) ∧
        q.time.toMs < p.expiresAt.toMs
    else q.wait = cfg.retryInterval

theorem waitFor_of_pending (m : ListenKeys) (now : Instant) {pending : Duration}
    (h : 0 < pending) : m.waitFor now pending = pending := by
  have hne : (pending == 0) = false := by simpa using h.ne'
  simp [waitFor, hne, Int.not_lt.2 h.le]

theorem waitFor_nonneg (m : ListenKeys) (now : Instant) (pending : Duration) :
    0 ≤ m.waitFor now pending := by
  have hcut : ∀ w : Int, 0 ≤ (if w < 0 then 0 else w) := fun w => by split <;> omega
  exact hcut _

/-- After a success at `now`, with a life of `L` and a lead of `B` milliseconds, `0 < B < L`,
the loop waits `L - B` milliseconds. -/
theorem waitFor_after_success {m : ListenKeys} {now : Instant} {L B : Int}
    (hexp : m.expiresAt = now.addMs L) (hB : Duration.toMs m.config.refreshBefore = B)
    (hnow : Instant.zeroMs ≤ now.toMs) (hB0 : 0 < B) (hBL : B < L)
    (hmax : (L - B) * Duration.perMs ≤ Duration.max) :
    m.waitFor now 0 = (L - B) * Duration.perMs := by
  have hset : (Instant.ofMs (now.toMs + L)).isSome := Instant.ofMs_isSome (by omega)
  have hset' : ¬(Instant.ofMs (now.toMs + L)).isNone = true := by
    rw [Option.isNone_iff_eq_none]
    exact Option.ne_none_iff_isSome.2 hset
  have hnext : m.nextRefreshAt = Instant.ofMs (now.toMs + L - B) := by
    rw [nextRefreshAt, hexp, Instant.addMs, if_neg hset', Instant.addMs, Instant.toMs_ofMs, hB]
    rfl
  have hsome : m.nextRefreshAt.isSome := by
    rw [hnext]
    exact Instant.ofMs_isSome (by omega)
  have hsub : Instant.sub m.nextRefreshAt now = (L - B) * Duration.perMs := by
    rw [Instant.sub, hnext, Instant.toMs_ofMs]
    refine (congrArg Duration.saturate (by ring)).trans (Duration.saturate_of_mem ?_ hmax)
    have : 0 ≤ (L - B) * Duration.perMs := by simp only [Duration.perMs]; omega
    simp only [Duration.min] at this ⊢
    have : (0 : Int) < Int.pow 2 63 := by decide
    omega
  have hpos : ¬ (L - B) * Duration.perMs < 0 := by simp only [Duration.perMs]; omega
  simp [waitFor, hsome, hsub, hpos]

/-- The first of the passes from a state waits what the loop waits there, and refreshes that
long after it. -/
theorem mem_head?_passes {c : KeyClient κ} {m : ListenKeys} {s : κ} {now : Instant} {fuel : Nat}
    {pending : Duration} {q : Pass} (hq : q ∈ (passes c m s now fuel pending).head?) :
    q.wait = m.waitFor now pending ∧ q.time = now.addMs (Duration.toMs q.wait) := by
  cases fuel with
  | zero => simp [passes] at hq
  | succ fuel =>
    simp only [passes] at hq
    split at hq <;> simp only [List.head?_cons, Option.mem_some_iff] at hq <;> subst hq <;>
      exact ⟨rfl, rfl⟩

section
variable {cfg : ListenKeyConfig} {c : KeyClient κ} {m : ListenKeys} {s : κ} {now : Instant}
  {fuel : Nat} {w : Duration} {e : Instant} {q : Pass}

/-- The pass after a failure at `now` waits the retry interval. -/
theorem spaced_after_failure (hm : m.config = cfg) (hretry : 0 < cfg.retryInterval)
    (hR : 0 < Duration.toMs cfg.retryInterval)
    (hq : q ∈ (passes c m s now fuel m.config.retryInterval).head?) :
    Spaced cfg ⟨w, now, false, e⟩ q := by
  obtain ⟨hwait, htime⟩ := mem_head?_passes hq
  rw [hm, waitFor_of_pending _ _ hretry] at hwait
  refine ⟨?_, htime, hwait⟩
  dsimp only
  rw [htime, hwait, Instant.addMs_toMs]
  omega

/-- The pass after a success at `now`, which set the expiry one life later, refreshes at that
expiry less the lead, strictly between the two. -/
theorem spaced_after_success (hm : m.config = cfg)
    (hexp : m.expiresAt = now.addMs (Duration.toMs cfg.ttl)) (hnow : Instant.zeroMs ≤ now.toMs)
    (hB0 : 0 < Duration.toMs cfg.refreshBefore)
    (hBL : Duration.toMs cfg.refreshBefore < Duration.toMs cfg.ttl)
    (hmax : (Duration.toMs cfg.ttl - Duration.toMs cfg.refreshBefore) * Duration.perMs ≤
      Duration.max)
    (hq : q ∈ (passes c m s now fuel 0).head?) :
    Spaced cfg ⟨w, now, true, m.expiresAt⟩ q := by
  set L := Duration.toMs cfg.ttl
  set B := Duration.toMs cfg.refreshBefore
  obtain ⟨hwait, htime⟩ := mem_head?_passes hq
  rw [waitFor_after_success hexp (by rw [hm]) hnow hB0 hBL hmax] at hwait
  have hwaitMs : Duration.toMs ((L - B) * Duration.perMs) = L - B :=
    Int.mul_tdiv_cancel _ (by decide)
  rw [hwait, hwaitMs] at htime
  have hdue : now.addMs (L - B) = (now.addMs L).addMs (-B) := by
    simp only [Instant.addMs, Instant.toMs_ofMs]
    congr 1
    omega
  refine ⟨?_, by rw [htime, hwait, hwaitMs], hexp, by rw [htime, hdue, hexp], ?_⟩
  · dsimp only
    rw [htime, Instant.addMs_toMs]
    omega
  · rw [htime, hexp, Instant.addMs_toMs, Instant.addMs_toMs]
    omega

end

variable (cfg : ListenKeyConfig)

/-- The passes from a manager on the repaired configuration of `cfg`, at an instant not before
the zero instant, are spaced as that configuration says, when its lead is shorter than its
life. -/
theorem passes_spaced (hms : cfg.WholeMs)
    (hlead : cfg.withDefaults.refreshBefore < cfg.withDefaults.ttl) (c : KeyClient κ)
    (fuel : Nat) : ∀ (m : ListenKeys) (s : κ) (now : Instant) (pending : Duration),
      m.config = cfg.withDefaults → Instant.zeroMs ≤ now.toMs →
      (passes c m s now fuel pending).IsChain (Spaced cfg.withDefaults) := by
  obtain ⟨hB0, hBL, hmax, hretry, hR0⟩ := cfg.withDefaults_ms hms hlead
  induction fuel with
  | zero => intro m s now pending _ _; exact List.IsChain.nil
  | succ fuel ih =>
    intro m s now pending hm hnow
    simp only [passes]
    -- the pass waits, then refreshes at `now'`
    have hle : now.toMs ≤ (now.addMs (Duration.toMs (m.waitFor now pending))).toMs := by
      rw [Instant.addMs_toMs]
      have := Duration.toMs_nonneg (waitFor_nonneg m now pending)
      omega
    generalize now.addMs (Duration.toMs (m.waitFor now pending)) = now' at hle ⊢
    obtain ⟨hcfg, hok⟩ := refresh_spec m c s now'
    rcases hr : m.refresh c s now' with ⟨m', s', _ | _⟩ <;> rw [hr] at hcfg hok <;>
      dsimp only at hcfg hok ⊢
    · -- a failure: the next pass waits the retry interval
      have hrest := ih m' s' now' m'.config.retryInterval (hcfg.trans hm) (hnow.trans hle)
      exact List.isChain_cons.2 ⟨fun q hq => spaced_after_failure (hcfg.trans hm) hretry hR0 hq,
        hrest⟩
    · -- a success: the next pass waits the life less the lead
      have hrest := ih m' s' now' 0 (hcfg.trans hm) (hnow.trans hle)
      exact List.isChain_cons.2 ⟨fun q hq => spaced_after_success (hcfg.trans hm)
        (by rw [hok rfl, hm]) (hnow.trans hle) hB0 hBL hmax hq, hrest⟩

/-- A loop started at the instant its key was acquired makes its first refresh one life less the
lead after the acquisition, before the key expires: the acquisition stands as a successful pass
ahead of the loop's, spaced from its first refresh as any other. -/
theorem acquired_passes_spaced (hms : cfg.WholeMs)
    (hlead : cfg.withDefaults.refreshBefore < cfg.withDefaults.ttl) (c : KeyClient κ)
    (m : ListenKeys) (hm : m.config = cfg.withDefaults) (s : κ) (now : Instant)
    (hnow : Instant.zeroMs ≤ now.toMs) {key : String} (hacq : (m.acquire c s now).2.2 = .ok key)
    (fuel : Nat) :
    (⟨0, now, true, (m.acquire c s now).1.expiresAt⟩ ::
      passes c (m.acquire c s now).1 (m.acquire c s now).2.1 now fuel 0).IsChain
        (Spaced cfg.withDefaults) := by
  obtain ⟨hB0, hBL, hmax, -, -⟩ := cfg.withDefaults_ms hms hlead
  obtain ⟨hcfg, hexp⟩ := acquire_spec m c s now
  have hexp' : (m.acquire c s now).1.expiresAt = now.addMs (Duration.toMs cfg.withDefaults.ttl) := by
    rw [hexp key hacq, hm]
  exact List.isChain_cons.2
    ⟨fun q hq => spaced_after_success (hcfg.trans hm) hexp' hnow hB0 hBL hmax hq,
      passes_spaced cfg hms hlead c fuel _ _ now 0 (hcfg.trans hm) hnow⟩

end ListenKeys

/-- The loop's waits are those of its passes, and when the repaired lead is shorter than the
life, consecutive passes are spaced: after a success at `t` the next refresh is at
`t + TTL - RefreshBefore`, strictly between `t` and the expiry `t + TTL`; after a failure it
waits the retry interval. -/
theorem run_refreshes_spaced {κ : Type} (cfg : ListenKeyConfig) (hms : cfg.WholeMs)
    (hlead : cfg.withDefaults.refreshBefore < cfg.withDefaults.ttl) (m : ListenKeys)
    (hm : m.config = cfg.withDefaults) (c : KeyClient κ) (s : κ) (now : Instant)
    (hnow : Instant.zeroMs ≤ now.toMs) (n : Nat) :
    (m.run c s now n).2.2.1 = (ListenKeys.passes c m s now n 0).map (·.wait) ∧
      (ListenKeys.passes c m s now n 0).IsChain (ListenKeys.Spaced cfg.withDefaults) :=
  ⟨ListenKeys.run_waits m c s now n,
    ListenKeys.passes_spaced cfg hms hlead c n m s now 0 hm hnow⟩

/-- A venue that accepts every listen-key call. -/
def steadyKeys : KeyClient Unit where
  create := fun s => (s, .ok "key")
  keepAlive := fun s _ => (s, .ok ())
  close := fun s _ => (s, .ok ())

/-- A start at noon, after the zero instant. -/
def keyNoon : Instant := some 1790856000000

/-- With the defaults, a loop over a venue accepting every call acquires a key at once and then
keeps it alive every fifty-five minutes. -/
theorem default_keys_refresh_every_55_minutes :
    ({} : ListenKeyConfig).WholeMs ∧
      ({} : ListenKeyConfig).withDefaults.refreshBefore < ({} : ListenKeyConfig).withDefaults.ttl ∧
      (ListenKeys.create {}).config = ({} : ListenKeyConfig).withDefaults ∧
      Instant.zeroMs ≤ keyNoon.toMs ∧
      ((ListenKeys.create {}).run steadyKeys () keyNoon 3).2.2.1 =
        (ListenKeys.passes steadyKeys (ListenKeys.create {}) () keyNoon 3 0).map (·.wait) ∧
      (ListenKeys.passes steadyKeys (ListenKeys.create {}) () keyNoon 3 0).IsChain
        (ListenKeys.Spaced ({} : ListenKeyConfig).withDefaults) :=
  ⟨by decide, by decide, rfl, by decide,
    run_refreshes_spaced {} (by decide) (by decide) (ListenKeys.create {}) rfl steadyKeys ()
      keyNoon (by decide) 3⟩

/-- A key living four minutes gets the default lead of five: after the acquisition at the start
the loop refreshes again and again at that same instant, never waiting. -/
theorem short_life_refreshes_back_to_back :
    (ListenKeys.passes steadyKeys (ListenKeys.create { ttl := Duration.ofMs 240000 }) () keyNoon
        3 0).map (fun p => (p.wait, p.time, p.ok)) =
      [(0, keyNoon, true), (0, keyNoon, true), (0, keyNoon, true)] := by
  decide +kernel

end TradeLedger
