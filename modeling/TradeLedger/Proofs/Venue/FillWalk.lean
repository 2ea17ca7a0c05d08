import Mathlib
import TradeLedger.Venue.Client
/-!
# Walking a range of fills

The client lists the account fills of a range `[start, end]` by walking it: spans of at most
seven days are asked in turn, and after a full page of 1000 fills the walk asks again from just
after the page's last fill. Here the venue holds a book of fills in time order. The walk stops
once it resumes at the range's end, so the end's millisecond is listed only when a span closed
at the end; and a full page resumes after its last fill's millisecond, losing that
millisecond's other fills.

## Main definitions

* `inRange`: the book's fills of a span.
* `FullPagesEndMs`: no full page ends inside a millisecond.

## Theorems

* `page_sublist`: a page is a sublist of its span's fills.
* `userTrades_lists_range`: the walk ends and lists exactly the fills of the range.
* `range_end_fill_missed`: a fill at the range's end is missed.
-/

namespace TradeLedger

/-- The fills of `book` whose time lies in `[a, b]`, in the book's order. -/
def inRange (book : List Fill) (a b : Int) : List Fill :=
  book.filter fun f => decide (a ≤ f.time ∧ f.time ≤ b)

/-- The venue that holds the fills `book`: a query answers the first page of the book's fills in
the range asked for, whatever the symbol. -/
def FillListing.ofBook (book : List Fill) : FillListing where
  page _ a b := .ok ((inRange book a b).take fillPageLimit)
  within h f hf := by
    cases h
    have := List.of_mem_filter (List.mem_of_mem_take hf)
    simpa using this

/-- No full page of the book ends inside a millisecond: the fills of a range that its first page
leaves out are all later than every fill the page holds. -/
def FullPagesEndMs (book : List Fill) : Prop :=
  ∀ a b, ∀ f ∈ (inRange book a b).drop fillPageLimit,
    ∀ g ∈ (inRange book a b).take fillPageLimit, g.time < f.time

section Book

variable {book : List Fill}

theorem mem_inRange {a b : Int} {f : Fill} :
    f ∈ inRange book a b ↔ f ∈ book ∧ a ≤ f.time ∧ f.time ≤ b := by
  simp [inRange]

theorem inRange_eq_nil {a b : Int} (h : b < a) : inRange book a b = [] :=
  List.filter_eq_nil_iff.mpr fun f _ hf => by simp at hf; omega

/-- The fills of a range up to a point inside it: those of the range no later than the point. -/
theorem inRange_filter_le {a b c : Int} (hcb : c ≤ b) :
    (inRange book a b).filter (fun f => decide (f.time ≤ c)) = inRange book a c := by
  unfold inRange
  rw [List.filter_filter]
  refine List.filter_congr fun f _ => ?_
  rw [← Bool.decide_and, decide_eq_decide]
  omega

variable (hsorted : book.Pairwise fun f g => f.time ≤ g.time)
include hsorted

/-- In a book in time order, a range is its part before a point followed by its part from the
point on. -/
theorem inRange_append {a b r : Int} (har : a ≤ r) (hrb : r ≤ b + 1) :
    inRange book a (r - 1) ++ inRange book r b = inRange book a b := by
  induction book with
  | nil => rfl
  | cons f rest ih =>
    obtain ⟨hf, hrest⟩ := List.pairwise_cons.mp hsorted
    by_cases hfr : f.time < r
    · -- the first fill belongs to the part before the point only
      have hnot : ¬ r ≤ f.time := by omega
      by_cases ha : a ≤ f.time
      · simp [inRange, ha, hfr, hnot, show f.time ≤ b by omega] at ih ⊢
        exact ih hrest
      · simp [inRange, ha, hnot] at ih ⊢
        exact ih hrest
    · -- the first fill and all after it lie from the point on
      have hpast : ∀ g ∈ f :: rest, r ≤ g.time := by
        intro g hg
        rcases List.mem_cons.mp hg with rfl | hg
        · omega
        · have := hf g hg
          omega
      have hfirst : inRange (f :: rest) a (r - 1) = [] :=
        List.filter_eq_nil_iff.mpr fun g hg hin => by
          have := hpast g hg
          simp at hin
          omega
      rw [hfirst, List.nil_append]
      refine List.filter_congr fun g hg => ?_
      have := hpast g hg
      simp only [decide_eq_decide]
      omega

/-- A fill of a book in time order is no later than the book's last fill. -/
theorem time_le_getLast {f : Fill} (hf : f ∈ book) (hne : book ≠ []) :
    f.time ≤ (book.getLast hne).time := by
  rw [← List.dropLast_append_getLast hne] at hsorted hf
  rcases List.mem_append.mp hf with hf | hf
  · exact (List.pairwise_append.mp hsorted).2.2 f hf _ (List.mem_singleton_self _)
  · rw [List.mem_singleton.mp hf]

end Book

section Page

variable {book : List Fill} {a e : Int}

/-- Where the walk resumes after a page of a span, less one, lies within the span. -/
theorem resume_sub_one_le :
    FillListing.resume e ((inRange book a e).take fillPageLimit) - 1 ≤ e := by
  unfold FillListing.resume
  split
  · rename_i hfull
    have hne : (inRange book a e).take fillPageLimit ≠ [] := by
      intro hnil
      rw [hnil] at hfull
      simp [fillPageLimit] at hfull
    rw [List.getLastD_eq_getLast?, List.getLast?_eq_some_getLast hne, Option.getD_some]
    have := (mem_inRange.mp (List.mem_of_mem_take (List.getLast_mem hne))).2.2
    omega
  · omega

variable (hsorted : book.Pairwise fun f g => f.time ≤ g.time)
include hsorted

theorem page_time_le {f : Fill} (hf : f ∈ (inRange book a e).take fillPageLimit) :
    f.time ≤ FillListing.resume e ((inRange book a e).take fillPageLimit) - 1 := by
  unfold FillListing.resume
  split
  · -- a full page resumes after its last fill, which is its latest
    have hne := List.ne_nil_of_mem hf
    rw [List.getLastD_eq_getLast?, List.getLast?_eq_some_getLast hne, Option.getD_some]
    have hpage : ((inRange book a e).take fillPageLimit).Pairwise fun f g => f.time ≤ g.time :=
      hsorted.sublist ((List.take_sublist _ _).trans List.filter_sublist)
    have := time_le_getLast hpage hf hne
    omega
  · have := (mem_inRange.mp (List.mem_of_mem_take hf)).2.2
    omega

/-- A page is a sublist of the book's fills from the span's start to just before where the walk
resumes. -/
theorem page_sublist :
    ((inRange book a e).take fillPageLimit).Sublist
      (inRange book a (FillListing.resume e ((inRange book a e).take fillPageLimit) - 1)) := by
  rw [← inRange_filter_le resume_sub_one_le]
  -- the page is a prefix of the span's fills, all of them before the resumption
  have hall := List.filter_eq_self.mpr fun f hf =>
    decide_eq_true (page_time_le (a := a) (e := e) hsorted hf)
  have hsub := (List.take_sublist fillPageLimit (inRange book a e)).filter
    (fun f => decide (f.time ≤ FillListing.resume e ((inRange book a e).take fillPageLimit) - 1))
  rwa [hall] at hsub

/-- When no full page ends inside a millisecond, a page is exactly the book's fills from the
span's start to just before where the walk resumes. -/
theorem page_eq_inRange (hfull : FullPagesEndMs book) :
    (inRange book a e).take fillPageLimit =
      inRange book a (FillListing.resume e ((inRange book a e).take fillPageLimit) - 1) := by
  rw [← inRange_filter_le resume_sub_one_le]
  generalize hc : FillListing.resume e ((inRange book a e).take fillPageLimit) - 1 = c
  have hall : ((inRange book a e).take fillPageLimit).filter (fun f => decide (f.time ≤ c)) =
      (inRange book a e).take fillPageLimit :=
    List.filter_eq_self.mpr fun f hf => decide_eq_true (hc ▸ page_time_le hsorted hf)
  -- what the page leaves out lies past its last fill, or there is nothing left out
  have hrest :
      ((inRange book a e).drop fillPageLimit).filter (fun f => decide (f.time ≤ c)) = [] := by
    refine List.filter_eq_nil_iff.mpr fun f hf hle => ?_
    unfold FillListing.resume at hc
    split at hc
    · rename_i hlen
      have hne : (inRange book a e).take fillPageLimit ≠ [] := by
        intro hnil
        rw [hnil] at hlen
        simp [fillPageLimit] at hlen
      rw [List.getLastD_eq_getLast?, List.getLast?_eq_some_getLast hne, Option.getD_some] at hc
      have := hfull a e f hf _ (List.getLast_mem hne)
      simp at hle
      omega
    · rename_i hlen
      have hnil : (inRange book a e).drop fillPageLimit = [] := by
        rw [List.drop_eq_nil_iff]
        rw [List.length_take] at hlen
        omega
      simp [hnil] at hf
  rw [← List.take_append_drop fillPageLimit (inRange book a e), List.filter_append, hrest,
    List.append_nil, List.take_append_drop, hall]

end Page

namespace FillListing

variable (v : FillListing) (symbol : String) {start stop : Int}

theorem walk_of_le (h : stop ≤ start) : v.walk symbol start stop = .ok [] := by
  rw [walk, dif_neg (by omega)]

/-- A walk asks the span from its start, then walks on from where the page resumes. -/
theorem walk_of_page {fills : List Fill} (h : start < stop)
    (hp : v.page symbol start (min (start + fillSpanMs) stop) = .ok fills) :
    v.walk symbol start stop =
      (fills ++ ·) <$> v.walk symbol (resume (min (start + fillSpanMs) stop) fills) stop := by
  rw [walk, dif_pos h]
  split
  · simp_all
  · simp_all

end FillListing

/-- A walk over a venue holding a book in time order lists a sublist of the book's fills of the
range; when no full page ends inside a millisecond, exactly the fills of `[start, stop)` or exactly
those of `[start, stop]`. -/
theorem walk_lists_range {book : List Fill} (hsorted : book.Pairwise fun f g => f.time ≤ g.time)
    (v : FillListing) (symbol : String)
    (hv : ∀ a b, v.page symbol a b = .ok ((inRange book a b).take fillPageLimit))
    (start stop : Int) :
    ∃ out, v.walk symbol start stop = .ok out ∧ out.Sublist (inRange book start stop) ∧
      (FullPagesEndMs book →
        out = inRange book start (stop - 1) ∨ out = inRange book start stop) := by
  fun_induction v.walk symbol start stop with
  | case1 start hlt f hp =>
    rw [hv] at hp
    cases hp
  | case2 start hlt fills hp ih =>
    obtain ⟨out, hwalk, hsub, hexact⟩ := ih
    -- the span runs from the start to seven days on or to the range's end
    have hse : start ≤ min (start + fillSpanMs) stop := by simp only [fillSpanMs]; omega
    have hes : min (start + fillSpanMs) stop ≤ stop := min_le_right _ _
    have hstart := FillListing.lt_resume hp hse
    rw [hv] at hp
    obtain rfl := Except.ok.inj hp
    generalize min (start + fillSpanMs) stop = e at hse hes hstart hwalk hsub hexact ⊢
    have hre : FillListing.resume e ((inRange book start e).take fillPageLimit) - 1 ≤ e :=
      resume_sub_one_le
    generalize hr : FillListing.resume e ((inRange book start e).take fillPageLimit) = r
      at hstart hwalk hsub hexact hre
    refine ⟨_ ++ out, by rw [hwalk]; rfl, ?_, fun hfull => ?_⟩
    · -- the page lies before the resumption, the rest of the walk from it on
      have hpage :
          ((inRange book start e).take fillPageLimit).Sublist (inRange book start (r - 1)) :=
        hr ▸ page_sublist hsorted
      rw [← inRange_append hsorted (b := stop) hstart.le (by omega)]
      exact hpage.append hsub
    · have hpage : (inRange book start e).take fillPageLimit = inRange book start (r - 1) :=
        hr ▸ page_eq_inRange hsorted hfull
      rw [hpage]
      by_cases hend : stop < r
      · -- the page reached the range's end, and nothing was left to walk
        have hnil : out = [] := by
          rcases hexact hfull with h | h <;> rw [h] <;> exact inRange_eq_nil (by omega)
        rw [hnil, List.append_nil, show r - 1 = stop by omega]
        exact .inr rfl
      · rcases hexact hfull with h | h
        · exact .inl (h ▸ inRange_append hsorted hstart.le (by omega))
        · exact .inr (h ▸ inRange_append hsorted hstart.le (by omega))
  | case3 start hge =>
    exact ⟨[], rfl, List.nil_sublist _, fun _ => .inl (inRange_eq_nil (by omega)).symm⟩

/-- With both credentials set, the client lists a sublist of the venue's fills of `[start, end]`,
and when no full page ends inside a millisecond, exactly those of `[start, end)` or of
`[start, end]`. -/
theorem userTrades_lists_range (c : VenueClient) (hkey : c.config.apiKey ≠ "")
    (hsecret : c.config.apiSecret ≠ "") {book : List Fill}
    (hsorted : book.Pairwise fun f g => f.time ≤ g.time) (v : FillListing) (symbol : String)
    (hv : ∀ a b, v.page symbol a b = .ok ((inRange book a b).take fillPageLimit))
    (start stop : Instant) :
    ∃ out, c.userTradesFrom v symbol start stop = .ok out ∧
      out.Sublist (inRange book start.toMs stop.toMs) ∧
      (FullPagesEndMs book → out = inRange book start.toMs (stop.toMs - 1) ∨
        out = inRange book start.toMs stop.toMs) := by
  have hcred : (c.config.apiKey == "" || c.config.apiSecret == "") = false := by
    simp [hkey, hsecret]
  rw [VenueClient.userTradesFrom, hcred, if_neg Bool.false_ne_true]
  exact walk_lists_range hsorted v symbol hv start.toMs stop.toMs

/-- A client with both credentials. -/
def keyedClient : VenueClient := VenueClient.create { apiKey := "key-1", apiSecret := "secret-1" }

/-- A fill of one order at a given millisecond. -/
def fillAt (id time : Int) : Fill :=
  { id, orderId := 7, symbol := "BTCUSDT", side := "BUY", positionSide := "BOTH", price := "100.5",
    qty := "0.010", realizedPnl := "0", commission := "0.001", time }

theorem keyed_client_lists_book_week :
    ∃ out, keyedClient.userTradesFrom
        (FillListing.ofBook [fillAt 1 1790856000000, fillAt 2 1791460800000]) "BTCUSDT"
        (some 1790856000000) (some 1791460800000) = .ok out ∧
      out.Sublist (inRange [fillAt 1 1790856000000, fillAt 2 1791460800000]
        1790856000000 1791460800000) ∧
      (FullPagesEndMs [fillAt 1 1790856000000, fillAt 2 1791460800000] →
        out = inRange [fillAt 1 1790856000000, fillAt 2 1791460800000]
          1790856000000 (1791460800000 - 1) ∨
        out = inRange [fillAt 1 1790856000000, fillAt 2 1791460800000]
          1790856000000 1791460800000) :=
  userTrades_lists_range keyedClient (by decide) (by decide) (by decide) _ "BTCUSDT"
    (fun _ _ => rfl) (some 1790856000000) (some 1791460800000)

/-- A fill at a range's end is missed when the walk resumes at the end: a range of one
millisecond asks nothing, and neither does the last millisecond of a range one past seven days. -/
theorem range_end_fill_missed :
    keyedClient.userTradesFrom (FillListing.ofBook [fillAt 1 1790856000000]) "BTCUSDT"
        (some 1790856000000) (some 1790856000000) = .ok [] ∧
      inRange [fillAt 1 1790856000000] 1790856000000 1790856000000 = [fillAt 1 1790856000000] ∧
      keyedClient.userTradesFrom (FillListing.ofBook [fillAt 1 (1790856000000 + fillSpanMs + 1)])
        "BTCUSDT" (some 1790856000000) (some (1790856000000 + fillSpanMs + 1)) = .ok [] ∧
      inRange [fillAt 1 (1790856000000 + fillSpanMs + 1)] 1790856000000
        (1790856000000 + fillSpanMs + 1) = [fillAt 1 (1790856000000 + fillSpanMs + 1)] := by
  refine ⟨FillListing.walk_of_le _ _ le_rfl, rfl, ?_, rfl⟩
  -- the first span closes a millisecond before the end, and its page is empty
  have hpage : (FillListing.ofBook [fillAt 1 (1790856000000 + fillSpanMs + 1)]).page "BTCUSDT"
      1790856000000 (min (1790856000000 + fillSpanMs) (1790856000000 + fillSpanMs + 1)) =
        .ok [] := by
    simp only [FillListing.ofBook, fillSpanMs]
    rfl
  rw [VenueClient.userTradesFrom, if_neg (by decide), Instant.toMs, Instant.toMs,
    FillListing.walk_of_page _ _ (by simp only [fillSpanMs]; omega) hpage,
    FillListing.walk_of_le _ _ (by simp only [FillListing.resume, fillSpanMs]; decide)]
  rfl

end TradeLedger
