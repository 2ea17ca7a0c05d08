import Mathlib
import TradeLedger.Proofs.Ledger.Rows
/-!
# The absorbed ids of a primary, through their column

A primary keeps the ids of the trades merged into it as one comma-joined text. A merge appends
the absorbed id unless `,id,` already occurs in the text padded with commas, and a read splits
the text at commas, trims blanks and drops empty pieces. The two are inverse on clean ids: not
empty, with no comma and no blank at either end. An id with a comma is read back as its pieces.

## Main definitions

* `Store.CleanId`: an id the text holds as it is.
* `Store.applyMerges`: a run of merges into one primary.

## Theorems

* `Store.splitIds_intercalate`: reading the join of clean ids gives them back.
* `Store.wrapped_infix_iff`: the padded test meets the text only at a whole piece.
* `Store.applyMerges_mergedIds`: merges of numbers read back the distinct absorbed ids, in the
  order of their first merge.
-/

namespace TradeLedger

/-- A row whose read ids are those of its text. -/
def Row.ReadsText (r : Row) : Prop := r.trade.mergedTradeIds = splitIds r.mergedText

namespace Store

/-- An id that the absorbed-ids text holds as it is: not empty, without a comma, and without a
blank at either end. -/
def CleanId (id : String) : Prop := id ≠ "" ∧ ',' ∉ id.toList ∧ String.trimBlank id = id

instance (id : String) : Decidable (CleanId id) :=
  inferInstanceAs (Decidable (id ≠ "" ∧ ',' ∉ id.toList ∧ String.trimBlank id = id))

/-! ### The membership test -/

theorem occursIn_iff_contains (needle : List Char) :
    ∀ hay : List Char, occursIn needle hay = true ↔ needle <:+: hay
  | [] => by
    simp only [occursIn, List.isEmpty_iff, List.infix_nil]
  | c :: rest => by
    rw [occursIn, Bool.or_eq_true, List.isPrefixOf_iff_prefix, occursIn_iff_contains needle rest,
      List.infix_cons_iff]

/-- A needle that starts with a character absent from `l` meets `l ++ ys` inside `ys`. -/
theorem infix_of_infix_append {c : Char} {xs ys : List Char} :
    ∀ {l : List Char}, c ∉ l → (c :: xs) <:+: (l ++ ys) → (c :: xs) <:+: ys
  | [], _, h => h
  | a :: l, hc, h => by
    rw [List.cons_append, List.infix_cons_iff] at h
    rcases h with h | h
    · -- the needle would start at `a`, which is not `c`
      have hca := (List.cons_prefix_cons.mp h).1
      subst hca
      exact absurd List.mem_cons_self hc
    · exact infix_of_infix_append (fun hl => hc (List.mem_cons_of_mem a hl)) h

/-- A comma-free piece followed by a comma is a prefix of another comma-free piece followed by a
comma exactly when the pieces are equal. -/
theorem append_comma_prefix_iff {t : List Char} (w : List Char) :
    ∀ {l : List Char}, ',' ∉ w → ',' ∉ l → ((w ++ [',']) <+: (l ++ ',' :: t) ↔ w = l) := by
  induction w with
  | nil =>
    intro l _ hl
    cases l with
    | nil => simp
    | cons a l =>
      -- the piece would have to start with a comma
      simp only [List.nil_append, List.cons_append, List.cons_prefix_cons, List.nil_prefix,
        and_true, reduceCtorEq, iff_false]
      intro ha
      exact hl (ha ▸ List.mem_cons_self)
  | cons a w ih =>
    intro l hw hl
    cases l with
    | nil =>
      -- the word would have to start with a comma
      simp only [List.cons_append, List.nil_append, List.cons_prefix_cons, reduceCtorEq,
        iff_false, not_and]
      intro ha
      exact absurd (ha ▸ List.mem_cons_self) hw
    | cons b l =>
      simp only [List.cons_append, List.cons_prefix_cons, List.cons.injEq]
      rw [ih (fun h => hw (List.mem_cons_of_mem a h)) (fun h => hl (List.mem_cons_of_mem b h))]

/-- Pieces, each followed by a comma. -/
def commaTerminated (L : List (List Char)) : List Char := (L.map (· ++ [','])).flatten

/-- In a text of comma-terminated comma-free pieces after a leading comma, a comma-free word
between two commas occurs exactly when it is one of the pieces. -/
theorem wrapped_infix_iff {w : List Char} (hw : ',' ∉ w) (L : List (List Char)) :
    (∀ l ∈ L, ',' ∉ l) → (((',' :: w) ++ [',']) <:+: (',' :: commaTerminated L) ↔ w ∈ L) := by
  induction L with
  | nil =>
    -- the needle has at least two characters, the text one
    intro _
    simp only [commaTerminated, List.map_nil, List.flatten_nil, List.not_mem_nil, iff_false]
    intro h
    have := h.length_le
    simp at this
  | cons l L ih =>
    intro hL
    have hl : ',' ∉ l := hL l List.mem_cons_self
    have ih := ih (fun x hx => hL x (List.mem_cons_of_mem l hx))
    have htext : ',' :: commaTerminated (l :: L) = ',' :: (l ++ ',' :: commaTerminated L) := by
      simp [commaTerminated]
    rw [htext, List.infix_cons_iff, List.cons_append, List.prefix_cons_inj,
      append_comma_prefix_iff w hw hl, List.mem_cons]
    constructor
    · rintro (h | h)
      · exact .inl h
      · -- past the first piece, the needle lies in the rest of the text
        exact .inr (ih.mp (infix_of_infix_append hl h))
    · rintro (h | h)
      · exact .inl h
      · exact .inr ((ih.mpr h).trans (List.suffix_append l _).isInfix)

/-! ### Reading and writing the text -/

variable {L : List String} {id : String}

theorem intercalate_comma_toList (L : List String) :
    (String.intercalate "," L).toList = [','].intercalate (L.map String.toList) := by
  rw [String.toList_intercalate]
  rfl

theorem intercalate_append_comma :
    ∀ {L : List (List Char)}, L ≠ [] → [','].intercalate L ++ [','] = commaTerminated L
  | [], h => absurd rfl h
  | [l], _ => by simp [commaTerminated]
  | l :: l' :: L, _ => by
    rw [List.intercalate_cons_cons, List.append_assoc, List.append_assoc,
      intercalate_append_comma (List.cons_ne_nil l' L)]
    simp [commaTerminated]

theorem intercalate_isEmpty (hL : ∀ x ∈ L, CleanId x) :
    (String.intercalate "," L).isEmpty = L.isEmpty := by
  cases L with
  | nil => rfl
  | cons x L =>
    -- the first id is not empty, and it starts the join
    have hx : x.toList ≠ [] := by
      rw [Ne, String.toList_eq_nil_iff]
      exact (hL x List.mem_cons_self).1
    rw [List.isEmpty_cons, Bool.eq_false_iff, Ne, String.isEmpty_iff, ← String.toList_eq_nil_iff,
      intercalate_comma_toList]
    cases L with
    | nil => simpa using hx
    | cons y L => simp [List.intercalate_cons_cons, hx]

/-- Reading the join of clean ids gives them back. -/
theorem splitIds_intercalate (hL : ∀ x ∈ L, CleanId x) : splitIds (String.intercalate "," L) = L := by
  unfold splitIds
  rw [intercalate_isEmpty hL]
  cases L with
  | nil => rfl
  | cons x L =>
    simp only [List.isEmpty_cons, Bool.false_eq_true, if_false]
    rw [intercalate_comma_toList, List.splitOn_intercalate ',' (by simpa using fun y hy => (hL y hy).2.1)
      (by simp)]
    -- each piece reads back as its id, which is trimmed and not empty
    have hpieces : ∀ y ∈ x :: L, String.trimBlank (String.ofList y.toList) = y := fun y hy => by
      rw [String.ofList_toList]
      exact (hL y hy).2.2
    have hmap : (x :: L).map ((fun p => String.trimBlank (String.ofList p)) ∘ String.toList) = x :: L :=
      (List.map_congr_left (g := id) fun y hy => hpieces y hy).trans (List.map_id _)
    rw [List.map_map, hmap]
    exact List.filter_eq_self.mpr fun y hy => by simpa [String.isEmpty_iff] using (hL y hy).1

/-- The padded test finds a clean id in the join of clean ids exactly when it is listed. -/
theorem occursIn_intercalate (hL : ∀ x ∈ L, CleanId x) (hid : CleanId id) (hne : L ≠ []) :
    occursIn ("," ++ id ++ ",").toList ("," ++ String.intercalate "," L ++ ",").toList = true ↔
      id ∈ L := by
  rw [occursIn_iff_contains]
  have hneedle : ("," ++ id ++ ",").toList = (',' :: id.toList) ++ [','] := by simp
  have htext : ("," ++ String.intercalate "," L ++ ",").toList =
      ',' :: commaTerminated (L.map String.toList) := by
    rw [String.toList_append, String.toList_append, intercalate_comma_toList,
      ← intercalate_append_comma (by simpa using hne)]
    simp
  rw [hneedle, htext, wrapped_infix_iff hid.2.1 _ (by simpa using fun y hy => (hL y hy).2.1),
    List.mem_map]
  constructor
  · rintro ⟨y, hy, hyid⟩
    exact String.toList_inj.mp hyid ▸ hy
  · exact fun h => ⟨id, h, rfl⟩

/-- A merge joins a clean id into the join of clean ids unless it is already listed. -/
theorem mergedTextWith_intercalate (hL : ∀ x ∈ L, CleanId x) (hid : CleanId id) :
    mergedTextWith (String.intercalate "," L) id =
      String.intercalate "," (if id ∈ L then L else L ++ [id]) := by
  unfold mergedTextWith
  rw [intercalate_isEmpty hL]
  cases L with
  | nil => simp [String.intercalate_singleton]
  | cons x L =>
    simp only [List.isEmpty_cons, Bool.false_eq_true, if_false]
    by_cases hin : id ∈ x :: L
    · rw [if_pos ((occursIn_intercalate hL hid (List.cons_ne_nil x L)).mpr hin), if_pos hin]
    · have hout : occursIn ("," ++ id ++ ",").toList
          ("," ++ String.intercalate "," (x :: L) ++ ",").toList = false := by
        rw [← Bool.not_eq_true, occursIn_intercalate hL hid (List.cons_ne_nil x L)]
        exact hin
      rw [hout, if_neg hin, String.intercalate_append_of_ne_nil (List.cons_ne_nil x L)
        (List.cons_ne_nil id []), String.intercalate_singleton]
      simp

/-! ### A run of merges -/

/-- Record merges into one primary in turn: the time, the new size and entry price, and the
absorbed id of each. -/
def applyMerges (s : Store) (primary : String) (merges : List (Instant × Float × Float × String)) :
    Except Fault Store :=
  merges.foldlM (fun s m => s.applyMerge m.1 primary m.2.1 m.2.2.1 m.2.2.2) s

/-- The ids listed after one more, in the order they first came. -/
theorem eraseDups_append_singleton (xs : List String) (x : String) :
    (xs ++ [x]).eraseDups = if x ∈ xs.eraseDups then xs.eraseDups else xs.eraseDups ++ [x] := by
  by_cases hx : x ∈ xs
  · have hnil : [x].removeAll xs = [] := by simp [List.removeAll, hx]
    rw [if_pos (List.mem_eraseDups.mpr hx), List.eraseDups_append, hnil, List.eraseDups_nil,
      List.append_nil]
  · have hone : [x].removeAll xs = [x] := by simp [List.removeAll, hx]
    rw [if_neg (mt List.mem_eraseDups.mp hx), List.eraseDups_append, hone]
    simp [List.eraseDups_cons]

theorem eraseDups_of_nodup : ∀ {xs : List String}, xs.Nodup → xs.eraseDups = xs
  | [], _ => rfl
  | x :: xs, h => by
    obtain ⟨hx, hxs⟩ := List.nodup_cons.mp h
    have hkeep : xs.filter (fun y => !y == x) = xs :=
      List.filter_eq_self.mpr fun y hy => by simpa using fun h : y = x => hx (h ▸ hy)
    rw [List.eraseDups_cons, hkeep, eraseDups_of_nodup hxs]

/-- Rewriting the row of an id with a change that keeps ids finds the rewritten row. -/
theorem find?_modify {s : Store} {p : String} {f : Row → Row}
    (hf : ∀ r, (f r).trade.id = r.trade.id) : (s.modify p f).1.find? p = (s.find? p).map f := by
  unfold modify
  split
  · simp only [find?, List.find?_map]
    have hpred : ((fun r : Row => r.trade.id == p) ∘ fun r => if r.trade.id == p then f r else r) =
        fun r => r.trade.id == p := by
      funext r
      by_cases h : r.trade.id = p <;> simp [h, hf]
    rw [hpred]
    -- the row found has the id, so it is the one rewritten
    rcases hfind : s.rows.find? (fun r => r.trade.id == p) with _ | r
    · simp [hfind]
    · have hid : r.trade.id = p := by simpa using List.find?_some hfind
      simp [hfind, hid]
  · rename_i hnone
    simp only [Bool.not_eq_true, Option.isSome_eq_false_iff, Option.isNone_iff_eq_none] at hnone
    rw [hnone]
    rfl

/-- A merge into a stored primary of an open store, at a size and entry price that are not NaN,
goes through, and the primary's row is the row absorbing the id. -/
theorem applyMerge_find? {s : Store} {p : String} {r : Row} (hopen : s.closed = false)
    (hr : s.find? p = some r) (now : Instant) {size entry : Float} (hsize : size.isNaN = false)
    (hentry : entry.isNaN = false) (id : String) :
    ∃ s', s.applyMerge now p size entry id = .ok s' ∧ s'.closed = false ∧
      s'.find? p = some (Row.absorb now size entry id r) := by
  have hsome : (s.find? p).isSome = true := by rw [hr]; rfl
  have hmod : s.modify p (Row.absorb now size entry id) =
      ((s.modify p (Row.absorb now size entry id)).1, true) := by
    unfold modify
    rw [if_pos hsome]
  refine ⟨(s.modify p (Row.absorb now size entry id)).1, ?_, by rw [modify_closed]; exact hopen, ?_⟩
  · unfold applyMerge guard
    rw [hmod, requireNumbers_ok fun c hc => by
      rcases List.mem_pair.mp hc with rfl | rfl <;> assumption]
    simp [hopen, bind, Except.bind, pure, Except.pure]
  · rw [find?_modify (f := Row.absorb now size entry id) fun _ => rfl, hr]
    rfl

/-- What a run of merges leaves on a primary whose text joins clean ids `P` listed once each:
the join of the ids of `P` and of the merges, listed once each in the order they first came. -/
theorem applyMerges_text {p : String} :
    ∀ (merges : List (Instant × Float × Float × String)) (s : Store) (r : Row) (P : List String),
      s.closed = false → s.find? p = some r → r.ReadsText →
      r.mergedText = String.intercalate "," P.eraseDups →
      (∀ x ∈ P, CleanId x) → (∀ m ∈ merges, CleanId m.2.2.2) →
      (∀ m ∈ merges, m.2.1.isNaN = false ∧ m.2.2.1.isNaN = false) →
      ∃ s' r', applyMerges s p merges = .ok s' ∧ s'.find? p = some r' ∧ r'.ReadsText ∧
        r'.mergedText = String.intercalate "," (P ++ merges.map (·.2.2.2)).eraseDups
  | [], s, r, P, _, hr, hread, htext, _, _, _ => ⟨s, r, rfl, hr, hread, by simpa using htext⟩
  | (now, size, entry, id) :: merges, s, r, P, hopen, hr, _, htext, hP, hm, hnum => by
    have hid : CleanId id := hm _ List.mem_cons_self
    have hclean : ∀ x ∈ P.eraseDups, CleanId x := fun x hx => hP x (List.mem_eraseDups.mp hx)
    obtain ⟨hsize, hentry⟩ := hnum _ List.mem_cons_self
    obtain ⟨s₁, h₁, hopen₁, hr₁⟩ := applyMerge_find? hopen hr now hsize hentry id
    -- one merge joins the id in unless it is listed, which is listing `P ++ [id]` once each
    have htext₁ : (Row.absorb now size entry id r).mergedText =
        String.intercalate "," (P ++ [id]).eraseDups := by
      change mergedTextWith r.mergedText id = _
      rw [htext, mergedTextWith_intercalate hclean hid, eraseDups_append_singleton]
    obtain ⟨s', r', hrun, hr', hread', htext'⟩ := applyMerges_text merges s₁ _ (P ++ [id])
      hopen₁ hr₁ rfl htext₁ (by simpa [or_imp, forall_and] using ⟨hP, hid⟩)
      (fun m hm' => hm m (List.mem_cons_of_mem _ hm'))
      (fun m hm' => hnum m (List.mem_cons_of_mem _ hm'))
    refine ⟨s', r', ?_, hr', hread', by simpa using htext'⟩
    simp only [applyMerges, List.foldlM_cons] at hrun ⊢
    rw [h₁]
    exact hrun

/-- The absorbed ids round-trip through their column: a run of merges with clean absorbed ids,
at sizes and entry prices that are not NaN, into a primary of an open store, whose clean and
distinct ids `L₀` are stored as their join, goes through, and the primary then reads back as `L₀` and the absorbed ids, each listed once in
the order it first came; so it has absorbed exactly those ids. -/
theorem applyMerges_mergedIds {s : Store} {p : String} {r : Row} {L₀ : List String}
    (hopen : s.closed = false) (hr : s.find? p = some r) (hread : r.trade.mergedTradeIds = L₀)
    (htext : r.mergedText = String.intercalate "," L₀) (hclean : ∀ x ∈ L₀, CleanId x)
    (hnodup : L₀.Nodup) (merges : List (Instant × Float × Float × String))
    (hm : ∀ m ∈ merges, CleanId m.2.2.2)
    (hnum : ∀ m ∈ merges, m.2.1.isNaN = false ∧ m.2.2.1.isNaN = false) :
    ∃ s' r', applyMerges s p merges = .ok s' ∧ s'.find? p = some r' ∧
      r'.trade.mergedTradeIds = (L₀ ++ merges.map (·.2.2.2)).eraseDups ∧
      (∀ id, r'.trade.hasAbsorbed id = true ↔ id ∈ L₀ ++ merges.map (·.2.2.2)) ∧
      ∀ t, s'.get p = .ok t → t.mergedTradeIds = (L₀ ++ merges.map (·.2.2.2)).eraseDups := by
  have hread₀ : r.ReadsText := by
    rw [Row.ReadsText, hread, htext, splitIds_intercalate hclean]
  obtain ⟨s', r', hrun, hr', hread', htext'⟩ := applyMerges_text merges s r L₀ hopen hr hread₀
    (by rw [eraseDups_of_nodup hnodup]; exact htext) hclean hm hnum
  -- the ids joined are clean, so the read gives them back
  have hall : ∀ x ∈ (L₀ ++ merges.map (·.2.2.2)).eraseDups, CleanId x := by
    intro x hx
    rcases List.mem_append.mp (List.mem_eraseDups.mp hx) with hx | hx
    · exact hclean x hx
    · obtain ⟨m, hm', rfl⟩ := List.mem_map.mp hx
      exact hm m hm'
  have hids : r'.trade.mergedTradeIds = (L₀ ++ merges.map (·.2.2.2)).eraseDups := by
    rw [hread', htext', splitIds_intercalate hall]
  refine ⟨s', r', hrun, hr', hids, fun id => ?_, fun t ht => ?_⟩
  · rw [Trade.hasAbsorbed, List.contains_iff_mem, hids, List.mem_eraseDups]
  · obtain ⟨r'', hr'', rfl⟩ := get_ok ht
    rw [hr'] at hr''
    cases hr''
    exact hids

/-- A fresh open long of one coin at 100. -/
def freshPrimary : Trade :=
  { id := "p", traderId := "alice", symbol := "BTCUSDT", side := .long, size := 1,
    entryPrice := 100, status := .opened }

/-- A store holding only the fresh primary. -/
def primaryStore : Store := { rows := [Row.ofNew freshPrimary] }

/-- Three merges into the primary, the first absorbed id twice. -/
def repeatedMerges : List (Instant × Float × Float × String) :=
  [(some 1790856000000, 2, 105, "t2"), (some 1790856000000, 2, 105, "t2"),
    (some 1790856060000, 3, 110, "t3")]

/-- A primary that absorbed `t2` twice and then `t3` reads back as having absorbed each once. -/
theorem repeated_merge_reads_once :
    primaryStore.closed = false ∧ primaryStore.find? "p" = some (Row.ofNew freshPrimary) ∧
      (Row.ofNew freshPrimary).trade.mergedTradeIds = [] ∧
      (Row.ofNew freshPrimary).mergedText = String.intercalate "," [] ∧
      (∀ m ∈ repeatedMerges, CleanId m.2.2.2) ∧
      (∀ m ∈ repeatedMerges, m.2.1.isNaN = false ∧ m.2.2.1.isNaN = false) ∧
      ∃ s' r', applyMerges primaryStore "p" repeatedMerges = .ok s' ∧ s'.find? "p" = some r' ∧
        r'.trade.mergedTradeIds = (repeatedMerges.map (·.2.2.2)).eraseDups ∧
        (∀ id, r'.trade.hasAbsorbed id = true ↔ id ∈ repeatedMerges.map (·.2.2.2)) ∧
        ∀ t, s'.get "p" = .ok t → t.mergedTradeIds = (repeatedMerges.map (·.2.2.2)).eraseDups := by
  have hopen : primaryStore.closed = false := rfl
  have hr : primaryStore.find? "p" = some (Row.ofNew freshPrimary) := by rfl
  have hread : (Row.ofNew freshPrimary).trade.mergedTradeIds = [] := by decide +kernel
  have htext : (Row.ofNew freshPrimary).mergedText = String.intercalate "," [] := rfl
  have hm : ∀ m ∈ repeatedMerges, CleanId m.2.2.2 := by decide
  have hnum : ∀ m ∈ repeatedMerges, m.2.1.isNaN = false ∧ m.2.2.1.isNaN = false := by
    decide +kernel
  exact ⟨hopen, hr, hread, htext, hm, hnum, applyMerges_mergedIds hopen hr hread htext
    (fun _ h => absurd h List.not_mem_nil) List.nodup_nil repeatedMerges hm hnum⟩

/-- An absorbed id with a comma is read back as its two pieces. -/
theorem comma_id_read_as_pieces :
    ((primaryStore.applyMerge (some 1790856000000) "p" 2 105 "a,b").toOption.bind
      (·.find? "p")).map (·.trade.mergedTradeIds) = some ["a", "b"] := by
  decide +kernel

end Store

end TradeLedger
