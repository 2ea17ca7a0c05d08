import TradeLedger.Venue.Weight
import TradeLedger.Proofs.Venue.RoundTrips
/-!
# Reported weight follows the venue's windows

The venue counts request weight in fixed windows aligned from the zero instant. The tracker keeps
the last report with a window's end: a report strictly after the end opens a new window, and a
reading counts the window over once the clock is not before the end. A report exactly at the end
does neither, so its window reads empty.

## Main definitions

* `Tracks`: the tracker is on the last report's window.

## Theorems

* `observeAll_tracks`: reports at non-decreasing instants leave the tracker on the last window.
* `usage_follows_reports`: a reading gives the last report of its window, with a pause.
* `boundary_report_reads_empty`: a report at the window's end reads empty.
-/

namespace TradeLedger

/-! ### Windows -/

/-- The start of the window holding unix millisecond `t`, for windows of `W` milliseconds
counted from the zero instant. -/
def windowStartMs (W t : Int) : Int := t - (t - Instant.zeroMs) % W

/-- The end of the window holding unix millisecond `t`. -/
def windowEndMs (W t : Int) : Int := windowStartMs W t + W

section Windows

variable {W : Int}

theorem windowStartMs_eq (W t : Int) :
    windowStartMs W t = Instant.zeroMs + W * ((t - Instant.zeroMs) / W) := by
  rw [windowStartMs, Int.emod_def]
  ring

theorem windowStartMs_le (hW : 0 < W) (t : Int) : windowStartMs W t ≤ t := by
  have := Int.mul_ediv_self_le (x := t - Instant.zeroMs) hW.ne'
  rw [windowStartMs_eq]
  omega

theorem lt_windowEndMs (hW : 0 < W) (t : Int) : t < windowEndMs W t := by
  have := Int.lt_mul_ediv_self_add (x := t - Instant.zeroMs) hW
  rw [windowEndMs, windowStartMs_eq]
  omega

/-- A later instant before the end of an instant's window shares its window. -/
theorem windowStartMs_eq_of_lt (hW : 0 < W) {s t : Int} (hst : s ≤ t) (ht : t < windowEndMs W s) :
    windowStartMs W t = windowStartMs W s := by
  rw [windowEndMs, windowStartMs_eq] at ht
  rw [windowStartMs_eq, windowStartMs_eq]
  have hlo := Int.mul_ediv_self_le (x := s - Instant.zeroMs) hW.ne'
  -- the quotient of `t` is squeezed between that of `s` and one more
  have hge : (s - Instant.zeroMs) / W ≤ (t - Instant.zeroMs) / W := Int.ediv_le_ediv hW (by omega)
  have hlt : (t - Instant.zeroMs) / W < (s - Instant.zeroMs) / W + 1 := by
    rw [Int.ediv_lt_iff_lt_mul hW]
    linarith
  have heq : (t - Instant.zeroMs) / W = (s - Instant.zeroMs) / W := by omega
  rw [heq]

/-- A later instant at or past the end of an instant's window is in a later window. -/
theorem windowEndMs_le_windowStartMs (hW : 0 < W) {s t : Int} (ht : windowEndMs W s ≤ t) :
    windowEndMs W s ≤ windowStartMs W t := by
  rw [windowEndMs, windowStartMs_eq] at ht ⊢
  rw [windowStartMs_eq]
  have hq : (s - Instant.zeroMs) / W + 1 ≤ (t - Instant.zeroMs) / W := by
    rw [Int.le_ediv_iff_mul_le hW]
    linarith
  nlinarith

/-- Two instants share a window exactly when the later one comes before the end of the
earlier one's window. -/
theorem windowStartMs_eq_iff (hW : 0 < W) {s t : Int} (hst : s ≤ t) :
    windowStartMs W s = windowStartMs W t ↔ t < windowEndMs W s := by
  constructor
  · intro h
    have := lt_windowEndMs hW t
    rw [windowEndMs] at this ⊢
    omega
  · intro ht
    exact (windowStartMs_eq_of_lt hW hst ht).symm

end Windows

theorem Instant.truncate_toMs {d : Duration} (hd : 0 < Duration.toMs d) (t : Instant) :
    (t.truncate d).toMs = windowStartMs (Duration.toMs d) t.toMs := by
  simp [Instant.truncate, Int.not_le.2 hd, windowStartMs]

/-- A report opens the window that ends one window length after its instant's window starts. -/
theorem Instant.truncate_addMs {d : Duration} (hd : 0 < Duration.toMs d) (t : Instant) :
    (t.truncate d).addMs (Duration.toMs d) = Instant.ofMs (windowEndMs (Duration.toMs d) t.toMs) := by
  rw [Instant.addMs, Instant.truncate_toMs hd, windowEndMs]

/-! ### Reports -/

/-- The reports that count, in order: the instant of each header that reads as a weight not
below zero, with that weight. -/
def counted (obs : List (Instant × Option Int)) : List (Int × Int) :=
  obs.filterMap fun o => (o.2.filter (0 ≤ ·)).map (o.1.toMs, ·)

/-- The weight of the last report made in the window of `t`, if any. -/
def lastInWindow (W : Int) (obs : List (Instant × Option Int)) (t : Instant) : Option Int :=
  (((counted obs).filter fun r => windowStartMs W r.1 = windowStartMs W t.toMs).getLast?).map (·.2)

theorem mem_counted {obs : List (Instant × Option Int)} {r : Int × Int} (hr : r ∈ counted obs) :
    ∃ o ∈ obs, r.1 = o.1.toMs := by
  obtain ⟨o, ho, hr⟩ := List.mem_filterMap.1 hr
  simp only [Option.map_eq_some_iff] at hr
  obtain ⟨_, -, rfl⟩ := hr
  exact ⟨o, ho, rfl⟩

theorem counted_sorted {obs : List (Instant × Option Int)}
    (hsorted : obs.Pairwise fun a b => a.1.toMs ≤ b.1.toMs) :
    (counted obs).Pairwise fun a b => a.1 ≤ b.1 := by
  refine hsorted.filterMap _ fun a a' h b hb b' hb' => ?_
  simp only [Option.map_eq_some_iff] at hb hb'
  obtain ⟨_, -, rfl⟩ := hb
  obtain ⟨_, -, rfl⟩ := hb'
  exact h

namespace WeightTracker

/-- The tracker after a run of reports, each an instant and the header read as a number if it
reads as one. -/
def observeAll (w : WeightTracker) (obs : List (Instant × Option Int)) : WeightTracker :=
  obs.foldl (fun w o => w.observe o.1 o.2) w

/-- What a reading gives for a window ending at `e`, from the weight reported in it, if any. -/
def reportFor (w : WeightTracker) (v : Option Int) (e : Instant) : WeightUsage :=
  match v with
  | none => { limit := w.limit }
  | some v => { used := v, limit := w.limit, percent := { w with used := v }.percent,
                windowEnds := e }

theorem percent_congr {w w' : WeightTracker} (hl : w.limit = w'.limit) (hu : w.used = w'.used) :
    w.percent = w'.percent := by
  simp [percent, hl, hu]

/-- A report keeps the configuration; one that counts sets the weight, and moves the window's
end to its own window's end when it comes after the stored end. -/
theorem observe_spec (w : WeightTracker) (t : Instant) (u : Option Int) :
    (w.observe t u).limit = w.limit ∧ (w.observe t u).window = w.window ∧
      (w.observe t u).pauseAt = w.pauseAt ∧
      match u.filter (0 ≤ ·) with
      | none => w.observe t u = w
      | some v => (w.observe t u).used = v ∧
          (w.observe t u).windowEnd = if w.windowEnd.toMs < t.toMs then
            (t.truncate w.window).addMs (Duration.toMs w.window) else w.windowEnd := by
  unfold observe
  rcases u with _ | u
  · simp
  · by_cases hu : u < 0
    · have hneg : ¬ 0 ≤ u := Int.not_le.2 hu
      simp [hu, hneg, Option.filter]
    · have hfilter : (some u).filter (fun x => decide (0 ≤ x)) = some u := by
        simp [Option.filter, Int.not_lt.1 hu]
      simp only [hu, if_false, hfilter]
      -- the warning flag is the only field the last step may touch
      split <;> split <;> simp_all

/-- The tracker follows reports `rs` when its window ends where the window of the last of them
ends, at the zero instant before any, and it holds the last one's weight. -/
def Tracks (W : Int) (w : WeightTracker) (rs : List (Int × Int)) : Prop :=
  match rs.getLast? with
  | none => w.windowEnd = Instant.ofMs Instant.zeroMs
  | some r => w.windowEnd = Instant.ofMs (windowEndMs W r.1) ∧ w.used = r.2

/-- The step: a report that counts, after the zero instant, not before the last counted report
and not exactly at the end of that report's window, keeps the tracker on its reports. -/
theorem observe_tracks {w : WeightTracker} {rs : List (Int × Int)} (hW : 0 < Duration.toMs w.window)
    (htr : Tracks (Duration.toMs w.window) w rs) {t : Instant} {v : Int} (hv : 0 ≤ v)
    (hafter : Instant.zeroMs < t.toMs)
    (hnext : ∀ r ∈ rs.getLast?, r.1 ≤ t.toMs ∧ t.toMs ≠ windowEndMs (Duration.toMs w.window) r.1) :
    Tracks (Duration.toMs w.window) (w.observe t (some v)) (rs ++ [(t.toMs, v)]) := by
  obtain ⟨-, -, -, hobs⟩ := observe_spec w t (some v)
  have hfilter : (some v).filter (fun x => decide (0 ≤ x)) = some v := by simp [Option.filter, hv]
  rw [hfilter] at hobs
  obtain ⟨hused, hend⟩ := hobs
  unfold Tracks at htr ⊢
  rw [List.getLast?_concat]
  refine ⟨?_, hused⟩
  rw [hend, Instant.truncate_addMs hW]
  rcases hlast : rs.getLast? with _ | r <;> rw [hlast] at htr
  · -- the first report opens its window
    rw [htr, Instant.toMs_ofMs, if_pos hafter]
  · obtain ⟨hr, -⟩ := htr
    obtain ⟨hle, hne⟩ := hnext r (by simp [hlast])
    rw [hr, Instant.toMs_ofMs]
    by_cases hpast : windowEndMs (Duration.toMs w.window) r.1 < t.toMs
    · rw [if_pos hpast]
    · -- still inside the last report's window, which is the new report's window too
      have hsame := windowStartMs_eq_of_lt hW hle (lt_of_le_of_ne (Int.not_lt.1 hpast) hne)
      rw [if_neg hpast, windowEndMs, windowEndMs, hsame]

theorem observe_of_filter_none {w : WeightTracker} {t : Instant} {u : Option Int}
    (h : u.filter (0 ≤ ·) = none) : w.observe t u = w := by
  have := (observe_spec w t u).2.2.2
  rwa [h] at this

theorem observeAll_append (w : WeightTracker) (obs : List (Instant × Option Int))
    (o : Instant × Option Int) : w.observeAll (obs ++ [o]) = (w.observeAll obs).observe o.1 o.2 := by
  simp [observeAll, List.foldl_append]

theorem observeAll_config (w : WeightTracker) (obs : List (Instant × Option Int)) :
    (w.observeAll obs).limit = w.limit ∧ (w.observeAll obs).window = w.window ∧
      (w.observeAll obs).pauseAt = w.pauseAt := by
  induction obs using List.reverseRecOn with
  | nil => exact ⟨rfl, rfl, rfl⟩
  | append_singleton obs o ih =>
    obtain ⟨hl, hw, hp, -⟩ := observe_spec (w.observeAll obs) o.1 o.2
    rw [observeAll_append, hl, hw, hp]
    exact ih

/-- The run: from a tracker with no window, reports at instants after the zero instant that
never go back, none exactly at the end of the window of the counted report before it, keep the
tracker on the counted reports. -/
theorem observeAll_tracks {w : WeightTracker} (hW : 0 < Duration.toMs w.window)
    (hinit : w.windowEnd = none) (obs : List (Instant × Option Int))
    (hsorted : obs.Pairwise fun a b => a.1.toMs ≤ b.1.toMs)
    (hafter : ∀ o ∈ obs, Instant.zeroMs < o.1.toMs)
    (hclear : (counted obs).IsChain fun a b => b.1 ≠ windowEndMs (Duration.toMs w.window) a.1) :
    Tracks (Duration.toMs w.window) (w.observeAll obs) (counted obs) := by
  induction obs using List.reverseRecOn with
  | nil => simp [Tracks, observeAll, counted, hinit, Instant.ofMs]
  | append_singleton obs o ih =>
    obtain ⟨t, u⟩ := o
    rw [List.pairwise_append] at hsorted
    have hafter' : ∀ o ∈ obs, Instant.zeroMs < o.1.toMs :=
      fun o' ho' => hafter o' (List.mem_append_left _ ho')
    have hcounted : counted (obs ++ [(t, u)]) =
        counted obs ++ ((u.filter (0 ≤ ·)).map (t.toMs, ·)).toList := by
      simp only [counted, List.filterMap_append, List.filterMap_cons, List.filterMap_nil]
      rcases (u.filter (0 ≤ ·)) <;> rfl
    rw [hcounted] at hclear ⊢
    have hwin : (w.observeAll obs).window = w.window := (observeAll_config w obs).2.1
    have htr := ih hsorted.1 hafter' (List.isChain_append.1 hclear).1
    rw [observeAll_append]
    rcases hv : u.filter (0 ≤ ·) with _ | v
    · -- a header that does not count changes nothing
      rw [observe_of_filter_none hv]
      simpa [hv] using htr
    · obtain ⟨rfl, hv0⟩ := Option.filter_eq_some_iff.1 hv
      have hv0' : 0 ≤ v := by simpa using hv0
      rw [← hwin] at htr ⊢
      simp only [hv, Option.map_some, Option.toList_some]
      refine observe_tracks (hwin ▸ hW) htr hv0'
        (hafter (t, some v) (List.mem_append_right _ (by simp))) ?_
      intro r hr
      -- the last counted report came from an earlier header, so not after this one
      obtain ⟨o', ho', hro⟩ := mem_counted (List.mem_of_getLast? hr)
      have hle : o'.1.toMs ≤ t.toMs := hsorted.2.2 o' ho' (t, some v) (by simp)
      refine ⟨hro ▸ hle, ?_⟩
      have hchain := (List.isChain_append.1 hclear).2.2 r hr (t.toMs, v) (by simp [hv0'])
      rw [hwin]
      exact hchain

/-- A reading at an instant not before the counted reports gives the last report made in the
instant's own window with that window's end, or no weight when there is none. -/
theorem usage_of_tracks {w : WeightTracker} {W : Int} (hW : 0 < W) {rs : List (Int × Int)}
    (htr : Tracks W w rs) (hsorted : rs.Pairwise fun a b => a.1 ≤ b.1) {t : Instant}
    (hafter : Instant.zeroMs < t.toMs) (hlate : ∀ r ∈ rs, r.1 ≤ t.toMs) :
    w.usage t = w.reportFor
      (((rs.filter fun r => windowStartMs W r.1 = windowStartMs W t.toMs).getLast?).map (·.2))
      (Instant.ofMs (windowEndMs W t.toMs)) := by
  unfold Tracks at htr
  rcases hlast : rs.getLast? with _ | r <;> rw [hlast] at htr
  · rw [List.getLast?_eq_none_iff] at hlast
    subst hlast
    simp [usage, reportFor, htr, Instant.toMs_ofMs, Int.not_lt.2 hafter.le]
  · obtain ⟨hend, hused⟩ := htr
    obtain ⟨front, rfl⟩ := List.getLast?_eq_some_iff.1 hlast
    have hrt : r.1 ≤ t.toMs := hlate r (by simp)
    by_cases hin : t.toMs < windowEndMs W r.1
    · -- the last report is in the window read, and it is the last there
      have hsame : windowStartMs W r.1 = windowStartMs W t.toMs := (windowStartMs_eq_iff hW hrt).2 hin
      have hend' : windowEndMs W t.toMs = windowEndMs W r.1 := by rw [windowEndMs, windowEndMs, hsame]
      rw [List.filter_append, List.filter_singleton, hsame]
      simp [usage, reportFor, hend, hused, hend', Instant.toMs_ofMs, hin,
        @percent_congr w { w with used := r.2 } rfl hused]
    · -- the window read starts after every report
      have hgap : windowEndMs W r.1 ≤ windowStartMs W t.toMs :=
        windowEndMs_le_windowStartMs hW (Int.not_lt.1 hin)
      have hnone : (front ++ [r]).filter (fun r => windowStartMs W r.1 = windowStartMs W t.toMs) = [] := by
        rw [List.filter_eq_nil_iff]
        intro x hx
        have hxr : x.1 ≤ r.1 := by
          rcases List.mem_append.1 hx with hx | hx
          · exact (List.pairwise_append.1 hsorted).2.2 x hx r (List.mem_singleton_self r)
          · rw [List.mem_singleton.1 hx]
        have := lt_windowEndMs hW r.1
        have := windowStartMs_le hW x.1
        simp only [decide_eq_true_eq]
        omega
      rw [hnone]
      simp [usage, reportFor, hend, Instant.toMs_ofMs, hin]

end WeightTracker

/-- After reports at instants that never go back, none exactly at the end of the window of the
counted report before it, a reading at a later `t` gives the last report made in `t`'s window
(or no weight), and a pause at `t` is none below ninety percent of the limit and otherwise
lasts until `t`'s window ends. -/
theorem usage_follows_reports (limit : Int) (window : Duration) (hW : 0 < Duration.toMs window)
    (obs : List (Instant × Option Int)) (t : Instant)
    (hsorted : (obs ++ [(t, none)]).Pairwise fun (a b : Instant × Option Int) => a.1.toMs ≤ b.1.toMs)
    (hafter : ∀ o ∈ obs ++ [(t, none)], Instant.zeroMs < o.1.toMs)
    (hclear : (counted obs).IsChain fun a b => b.1 ≠ windowEndMs (Duration.toMs window) a.1) :
    let w : WeightTracker := { limit, window }
    let e := Instant.ofMs (windowEndMs (Duration.toMs window) t.toMs)
    (w.observeAll obs).usage t = w.reportFor (lastInWindow (Duration.toMs window) obs t) e ∧
      (w.observeAll obs).pause t =
        match lastInWindow (Duration.toMs window) obs t with
        | none => none
        | some v => if ({ w with used := v } : WeightTracker).percent < (90 : Float) then none
            else some (Instant.sub e t) := by
  intro w e
  rw [List.pairwise_append] at hsorted
  have hcfg := WeightTracker.observeAll_config w obs
  have htr := WeightTracker.observeAll_tracks (w := w) hW rfl obs hsorted.1
    (fun o ho => hafter o (List.mem_append_left _ ho)) hclear
  have hlate : ∀ r ∈ counted obs, r.1 ≤ t.toMs := by
    intro r hr
    obtain ⟨o, ho, hro⟩ := mem_counted hr
    exact hro ▸ hsorted.2.2 o ho (t, none) (by simp)
  -- the readings see the limit of the new tracker
  have hreport : ∀ v e', (w.observeAll obs).reportFor v e' = w.reportFor v e' := by
    intro v e'
    cases v with
    | none => simp [WeightTracker.reportFor, hcfg.1]
    | some v => simp [WeightTracker.reportFor, WeightTracker.percent, hcfg.1]
  have husage : (w.observeAll obs).usage t =
      w.reportFor (lastInWindow (Duration.toMs window) obs t) e := by
    rw [WeightTracker.usage_of_tracks hW htr (counted_sorted hsorted.1) (hafter (t, none) (by simp))
      hlate, hreport]
    rfl
  refine ⟨husage, ?_⟩
  simp only [WeightTracker.pause, husage, hcfg.2.2]
  rcases lastInWindow (Duration.toMs window) obs t with _ | v
  · -- no report: no weight, and no weight never pauses
    have hzero : (0 : Float) < 90 := by decide
    simp [WeightTracker.reportFor, w, hzero]
  · simp only [WeightTracker.reportFor]
    rfl

/-- Two reports inside one minute's window and a header that does not read: a reading at
12:00:50 gives the second report, and the pause lasts the ten seconds left in the window. -/
theorem reports_in_one_window_pause_to_its_end :
    let obs : List (Instant × Option Int) := [(some 1790856030000, some 1000),
      (some 1790856040000, some 2300), (some 1790856045000, none)]
    let t : Instant := some 1790856050000
    0 < Duration.toMs (Duration.ofMs 60000) ∧
      (obs ++ [(t, none)]).Pairwise (fun (a b : Instant × Option Int) => a.1.toMs ≤ b.1.toMs) ∧
      (∀ o ∈ obs ++ [(t, none)], Instant.zeroMs < o.1.toMs) ∧
      (counted obs).IsChain (fun a b => b.1 ≠ windowEndMs (Duration.toMs (Duration.ofMs 60000)) a.1) ∧
      (let w : WeightTracker := { limit := 2400, window := Duration.ofMs 60000 }
      let e := Instant.ofMs (windowEndMs (Duration.toMs (Duration.ofMs 60000)) t.toMs)
      (w.observeAll obs).usage t =
          w.reportFor (lastInWindow (Duration.toMs (Duration.ofMs 60000)) obs t) e ∧
        (w.observeAll obs).pause t =
          match lastInWindow (Duration.toMs (Duration.ofMs 60000)) obs t with
          | none => none
          | some v => if ({ w with used := v } : WeightTracker).percent < (90 : Float) then none
              else some (Instant.sub e t)) :=
  ⟨by decide, by decide +kernel, by decide +kernel, by decide +kernel,
    usage_follows_reports 2400 (Duration.ofMs 60000) (by decide) _ _ (by decide +kernel)
      (by decide +kernel) (by decide +kernel)⟩

/-- A report at the very end of the stored window is lost: with windows of a minute, a report
of 2300 at 12:00:30 and another at 12:01:00 leave the window from 12:01:00 reading empty at
12:01:10, though its last report is 2300, and no pause follows. -/
theorem boundary_report_reads_empty :
    let w : WeightTracker := { limit := 2400, window := Duration.ofMs 60000 }
    let obs : List (Instant × Option Int) := [(some 1790856030000, some 2300),
      (some 1790856060000, some 2300)]
    ((w.observeAll obs).usage (some 1790856070000)).used = 0 ∧
      (w.observeAll obs).pause (some 1790856070000) = none ∧
      lastInWindow 60000 obs (some 1790856070000) = some 2300 := by
  refine ⟨by decide +kernel, by decide +kernel, by decide +kernel⟩

end TradeLedger
