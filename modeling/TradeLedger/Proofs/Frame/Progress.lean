import TradeLedger.Event.Decode
/-!
# Every reader of a frame moves forward

The frame decoder recurses into array items and envelope data with the frame's length as fuel,
so every piece it recurses into must be shorter than its element. The readers that cut those
pieces never give back more than they were given.

## Theorems

* `Frame.skipValue_length`, `Frame.readRaw_length`: skips and reads move forward.
* `Frame.readList_length`: the items of an array are shorter than the array.
* `Frame.readRecord_keeps`: what every field's read keeps, the record keeps.
* `Frame.probe_data_length`: the data found in an object is shorter than the object.
-/

namespace TradeLedger

theorem Except.bind_eq_ok {ε α β : Type} {x : Except ε α} {f : α → Except ε β} {b : β} :
    x >>= f = .ok b ↔ ∃ a, x = .ok a ∧ f a = .ok b := by
  cases x <;> simp [bind, Except.bind]

namespace Utf8

theorem dropBlank_length (bs : List UInt8) : (dropBlank bs).length ≤ bs.length := by
  fun_induction dropBlank bs <;> grind [List.length_drop]

theorem dropBlankEnd_length (fuel : Nat) (bs : List UInt8) :
    (dropBlankEnd fuel bs).length ≤ bs.length := by
  fun_induction dropBlankEnd fuel bs <;> grind [List.length_take]

theorem trimBlank_length (bs : List UInt8) : (trimBlank bs).length ≤ bs.length :=
  Nat.le_trans (dropBlankEnd_length _ _) (dropBlank_length bs)

end Utf8

namespace Frame

variable {bs r : List UInt8} {depth : Nat}

/-! ### Scanning values -/

theorem length_skipWs (bs : List UInt8) : (skipWs bs).length ≤ bs.length :=
  (List.dropWhile_suffix _).length_le

theorem skipLiteral_length {tail bs r : List UInt8} (h : skipLiteral tail bs = .ok r) :
    r.length ≤ bs.length := by
  unfold skipLiteral at h
  split at h
  · cases h
    simp
  · cases h

theorem skipStringBody_length (h : skipStringBody bs = .ok r) :
    r.length < bs.length := by
  fun_induction skipStringBody bs <;> grind

theorem skipNested_length {o c : UInt8} {count depth : Nat} {s e : Bool}
    (h : skipNested o c count depth s e bs = .ok r) : r.length < bs.length := by
  -- each branch refuses, answers the bytes after the one it looked at, or goes on from them
  fun_induction skipNested o c count depth s e bs <;> grind

theorem skipValue_length (h : skipValue depth bs = .ok r) :
    r.length < bs.length := by
  have hws := length_skipWs bs
  unfold skipValue at h
  split at h
  · cases h
  · rename_i b rest hstart
    rw [hstart] at hws
    have hrest : r.length < (b :: rest).length := by
      have hnum : (rest.dropWhile isNumberByte).length ≤ rest.length :=
        (List.dropWhile_suffix _).length_le
      -- a bracket, a string, a number or a literal: each is read past its first byte
      repeat' split at h
      all_goals first
        | (cases h; done)
        | exact Nat.lt_succ_of_lt (skipNested_length h)
        | exact Nat.lt_succ_of_lt (skipStringBody_length h)
        | exact Nat.lt_succ_of_le (skipLiteral_length h)
        | (cases h; exact Nat.lt_succ_of_le hnum)
    omega

/-- The bytes of a value come from the input, and reading it moves forward. -/
theorem readRaw_length {bs raw r : List UInt8}
    (h : readRaw depth bs = .ok (raw, r)) : raw.length ≤ bs.length ∧ r.length < bs.length := by
  unfold readRaw at h
  obtain ⟨rest, hs, h⟩ := Except.bind_eq_ok.mp h
  simp only [pure, Except.pure, Except.ok.injEq, Prod.mk.injEq] at h
  obtain ⟨rfl, rfl⟩ := h
  have hws := length_skipWs bs
  have hlt := skipValue_length hs
  simp only [List.length_take]
  omega

theorem stringBody_length {fuel : Nat} {acc bs s r : List UInt8}
    (h : stringBody fuel acc bs = .ok (s, r)) : r.length < bs.length := by
  fun_induction stringBody fuel acc bs <;> grind +zetaDelta [List.length_drop]

theorem readString_length {s : Option (List UInt8)}
    (h : readString bs = .ok (s, r)) : r.length < bs.length := by
  have hws := length_skipWs bs
  unfold readString at h
  split at h
  · cases h
  · rename_i b rest hstart
    rw [hstart, List.length_cons] at hws
    split at h
    · -- a string: its body ends past the closing quote
      obtain ⟨⟨s', r'⟩, hb, h⟩ := Except.bind_eq_ok.mp h
      simp only [pure, Except.pure, Except.ok.injEq, Prod.mk.injEq] at h
      obtain ⟨-, rfl⟩ := h
      have := stringBody_length hb
      omega
    · split at h
      · -- null
        obtain ⟨r', hl, h⟩ := Except.bind_eq_ok.mp h
        simp only [pure, Except.pure, Except.ok.injEq, Prod.mk.injEq] at h
        obtain ⟨-, rfl⟩ := h
        have := skipLiteral_length hl
        omega
      · cases h

theorem readKey_length {m : NameMatch} {bs key r : List UInt8}
    (h : readKey m bs = .ok (key, r)) : r.length < bs.length := by
  cases m with
  | exact =>
    obtain ⟨⟨s, r'⟩, hs, h⟩ := Except.bind_eq_ok.mp h
    simp only [pure, Except.pure, Except.ok.injEq, Prod.mk.injEq] at h
    exact h.2 ▸ readString_length hs
  | foldCase =>
    simp only [readKey] at h
    have hws := length_skipWs bs
    split at h
    · rename_i rest hstart
      rw [hstart, List.length_cons] at hws
      have := stringBody_length h
      omega
    · cases h

theorem readWhole_ok {α : Type} {read : List UInt8 → Except FrameFault (α × List UInt8)}
    {bs : List UInt8} {v : α} (h : readWhole read bs = .ok v) : ∃ r, read bs = .ok (v, r) := by
  obtain ⟨⟨v', r⟩, hr, h⟩ := Except.bind_eq_ok.mp h
  dsimp only at h
  split at h
  · cases h
    exact ⟨r, hr⟩
  · cases h

/-! ### Lists -/

/-- The items of a list are read from the bytes after its bracket. -/
theorem items_length : ∀ {fuel : Nat} {acc : List (List UInt8)} {bs r : List UInt8}
    {xs : List (List UInt8)}, items (readRaw depth) fuel acc bs = .ok (xs, r) →
      ∀ x ∈ xs, x ∈ acc ∨ x.length ≤ bs.length
  | 0, _, _, _, _, h => by cases h
  | fuel + 1, acc, bs, r, xs, h => by
    obtain ⟨⟨x, r₁⟩, hx, h⟩ := Except.bind_eq_ok.mp h
    dsimp only at h
    obtain ⟨hxl, hr₁⟩ := readRaw_length hx
    have hws := length_skipWs r₁
    intro y hy
    split at h
    · -- a closing bracket: the items so far, this one last
      simp only [pure, Except.pure, Except.ok.injEq, Prod.mk.injEq] at h
      obtain ⟨rfl, -⟩ := h
      rcases List.mem_cons.mp (List.mem_reverse.mp hy) with rfl | hy
      · exact .inr hxl
      · exact .inl hy
    · -- a comma: the items after it
      rename_i r₂ hr₂
      rw [hr₂, List.length_cons] at hws
      rcases items_length h y hy with hy | hy
      · rcases List.mem_cons.mp hy with rfl | hy
        · exact .inr hxl
        · exact .inl hy
      · exact .inr (by omega)
    · cases h

/-- The items of an array that reads are shorter than the array. -/
theorem readList_length {xs : List (List UInt8)}
    (h : readList readRaw 0 bs = .ok (some xs, r)) : ∀ x ∈ xs, x.length < bs.length := by
  have hws := length_skipWs bs
  unfold readList at h
  split at h
  · cases h
  split at h
  · -- null reads as no list at all
    obtain ⟨r', -, h⟩ := Except.bind_eq_ok.mp h
    simp [pure, Except.pure] at h
  · rename_i rest hstart
    rw [hstart, List.length_cons] at hws
    split at h
    · simp only [Except.ok.injEq, Prod.mk.injEq, Option.some.injEq] at h
      simp [← h.1]
    · obtain ⟨⟨ys, r'⟩, hi, h⟩ := Except.bind_eq_ok.mp h
      simp only [pure, Except.pure, Except.ok.injEq, Prod.mk.injEq, Option.some.injEq] at h
      intro x hx
      rw [← h.1] at hx
      rcases items_length hi x hx with hx | hx
      · cases hx
      · omega
  · cases h

/-! ### Records -/

theorem mem_of_findField {α : Type} {m : NameMatch} {fields : List (Field α)} {key : List UInt8}
    {f : Field α} (h : findField m fields key = some f) : f ∈ fields := by
  cases m <;> exact List.mem_of_find?_eq_some h

section Keeps

variable {α : Type} {m : NameMatch} {fields : List (Field α)} {depth n : Nat} (I : α → Prop)

/-- One member: its name, a colon, its value read by its field or skipped, then the closing
brace or a comma and the members after it. -/
theorem members_succ_eq_ok {fuel : Nat} {a a' : α} {bs r : List UInt8}
    (h : members m fields depth (fuel + 1) a bs = .ok (a', r)) :
    ∃ key r₁ r₂ a₁ r₃, readKey m bs = .ok (key, r₁) ∧ skipWs r₁ = 58 :: r₂ ∧
      ((∃ f, findField m fields key = some f ∧ f.read a r₂ = .ok (a₁, r₃)) ∨
        (a₁ = a ∧ skipValue depth r₂ = .ok r₃)) ∧
      ((∃ r₄, skipWs r₃ = 125 :: r₄ ∧ a' = a₁) ∨
        (∃ r₄, skipWs r₃ = 44 :: r₄ ∧
          members m fields depth fuel a₁ r₄ = .ok (a', r))) := by
  obtain ⟨⟨key, r₁⟩, hk, h⟩ := Except.bind_eq_ok.mp h
  dsimp only at h
  split at h
  · rename_i r₂ hcolon
    refine ⟨key, r₁, r₂, ?_⟩
    split at h
    · rename_i f hfind
      obtain ⟨⟨a₁, r₃⟩, hv, h⟩ := Except.bind_eq_ok.mp h
      refine ⟨a₁, r₃, hk, hcolon, .inl ⟨f, hfind, hv⟩, ?_⟩
      dsimp only at h
      -- the brace or comma after the value, the same step for both ways of reading it
      split at h
      · simp only [pure, Except.pure, Except.ok.injEq, Prod.mk.injEq] at h
        exact .inl ⟨_, ‹_›, h.1.symm⟩
      · exact .inr ⟨_, ‹_›, h⟩
      · cases h
    · obtain ⟨r₃, hs, h⟩ := Except.bind_eq_ok.mp h
      refine ⟨a, r₃, hk, hcolon, .inr ⟨rfl, hs⟩, ?_⟩
      simp only [pure, Except.pure, bind, Except.bind] at h
      split at h
      · simp only [Except.ok.injEq, Prod.mk.injEq] at h
        exact .inl ⟨_, ‹_›, h.1.symm⟩
      · exact .inr ⟨_, ‹_›, h⟩
      · cases h
  · cases h

/-- What every field read keeps, a whole member list keeps, as long as the reads start on
bytes shorter than `n` and each leaves no more bytes than it was given. -/
theorem members_keeps
    (hf : ∀ f ∈ fields, ∀ {a c a' r}, f.read a c = .ok (a', r) → c.length < n → I a →
      I a' ∧ r.length ≤ c.length) :
    ∀ {fuel : Nat} {a a' : α} {bs r : List UInt8},
      members m fields depth fuel a bs = .ok (a', r) → bs.length < n → I a → I a'
  | 0, _, _, _, _, h => by cases h
  | fuel + 1, a, a', bs, r, h => by
    intro hn ha
    obtain ⟨key, r₁, r₂, a₁, r₃, hk, hcolon, hv, hrest⟩ := members_succ_eq_ok h
    have h₁ := readKey_length hk
    have hw₁ := length_skipWs r₁
    rw [hcolon, List.length_cons] at hw₁
    -- the member's value, read by its field or skipped, keeps the invariant
    have ⟨hI, hr₃⟩ : I a₁ ∧ r₃.length < n := by
      rcases hv with ⟨f, hfind, hv⟩ | ⟨rfl, hs⟩
      · obtain ⟨hI, hr₃⟩ := hf f (mem_of_findField hfind) hv (by omega) ha
        exact ⟨hI, by omega⟩
      · have := skipValue_length hs
        exact ⟨ha, by omega⟩
    have hw₃ := length_skipWs r₃
    rcases hrest with ⟨r₄, -, rfl⟩ | ⟨r₄, hcomma, h⟩
    · exact hI
    · rw [hcomma, List.length_cons] at hw₃
      exact members_keeps hf h (by omega) hI

/-- A record's fields are read from the bytes after its brace, so what every field read keeps,
the record keeps. -/
theorem readRecord_keeps
    (hf : ∀ f ∈ fields, ∀ {a c a' r}, f.read a c = .ok (a', r) → c.length < n → I a →
      I a' ∧ r.length ≤ c.length)
    {init a : α} {bs r : List UInt8} (h : readRecord m fields depth init bs = .ok (some a, r))
    (hn : bs.length ≤ n) (hi : I init) : I a := by
  have hws := length_skipWs bs
  unfold readRecord at h
  split at h
  · cases h
  split at h
  · obtain ⟨r', -, h⟩ := Except.bind_eq_ok.mp h
    simp [pure, Except.pure] at h
  · rename_i rest hstart
    rw [hstart, List.length_cons] at hws
    split at h
    · simp only [Except.ok.injEq, Prod.mk.injEq, Option.some.injEq] at h
      exact h.1 ▸ hi
    · obtain ⟨⟨a', r'⟩, hm, h⟩ := Except.bind_eq_ok.mp h
      simp only [pure, Except.pure, Except.ok.injEq, Prod.mk.injEq, Option.some.injEq] at h
      exact h.1 ▸ members_keeps I hf hm (by omega) hi
  · cases h

end Keeps

theorem stringField_read {α : Type} {name : String} {set : α → String → α} {a a' : α}
    {c r : List UInt8} (h : (stringField name set).read a c = .ok (a', r)) :
    ∃ s, readString c = .ok (s, r) ∧ a' = s.elim a (fun s => set a (Utf8.lossy s)) := by
  obtain ⟨⟨s, r'⟩, hs, h⟩ := Except.bind_eq_ok.mp h
  simp only [pure, Except.pure, Except.ok.injEq, Prod.mk.injEq] at h
  obtain ⟨rfl, rfl⟩ := h
  exact ⟨s, hs, by cases s <;> rfl⟩

theorem rawField_read {α : Type} {name : String} {depth : Nat} {set : α → List UInt8 → α}
    {a a' : α} {c r : List UInt8} (h : (rawField name depth set).read a c = .ok (a', r)) :
    ∃ raw, readRaw depth c = .ok (raw, r) ∧ a' = set a raw := by
  obtain ⟨⟨raw, r'⟩, hs, h⟩ := Except.bind_eq_ok.mp h
  simp only [pure, Except.pure, Except.ok.injEq, Prod.mk.injEq] at h
  exact ⟨raw, h.2 ▸ hs, h.1.symm⟩

theorem intField_read {α : Type} {name : String} {depth : Nat} {set : α → Int → α}
    {a a' : α} {c r : List UInt8} (h : (intField name depth set).read a c = .ok (a', r)) :
    ∃ raw v, readRaw depth c = .ok (raw, r) ∧ a' = set a v := by
  obtain ⟨⟨raw, r'⟩, hs, h⟩ := Except.bind_eq_ok.mp h
  obtain ⟨v, -, h⟩ := Except.bind_eq_ok.mp h
  simp only [pure, Except.pure, Except.ok.injEq, Prod.mk.injEq] at h
  exact ⟨raw, v, h.2 ▸ hs, h.1.symm⟩

/-- The data a probe finds inside an object is shorter than the object. -/
theorem probe_data_length {frame d : List UInt8} {p : Option Probe}
    (h : readWhole (readRecord .exact probeFields 0 {}) frame = .ok p)
    (hd : (p.getD {}).data = some d) : d.length < frame.length := by
  obtain ⟨r, h⟩ := readWhole_ok h
  cases p with
  | none => cases hd
  | some p =>
    -- every probe field leaves the data it finds shorter than the object
    have hf : ∀ f ∈ probeFields, ∀ {a c a' r}, f.read a c = .ok (a', r) →
        c.length < frame.length → (∀ x, a.data = some x → x.length < frame.length) →
        (∀ x, a'.data = some x → x.length < frame.length) ∧ r.length ≤ c.length := by
      intro f hf a c a' r hr hc ha
      simp only [probeFields, List.mem_cons, List.not_mem_nil, or_false] at hf
      rcases hf with rfl | rfl | rfl | rfl
      · obtain ⟨s, hs, rfl⟩ := stringField_read hr
        refine ⟨fun x hx => ha x ?_, Nat.le_of_lt (readString_length hs)⟩
        cases s <;> simpa using hx
      · obtain ⟨raw, hs, rfl⟩ := rawField_read hr
        have := readRaw_length hs
        exact ⟨fun x hx => by cases hx; omega, Nat.le_of_lt this.2⟩
      · obtain ⟨raw, hs, rfl⟩ := rawField_read hr
        exact ⟨ha, Nat.le_of_lt (readRaw_length hs).2⟩
      · obtain ⟨raw, v, hs, rfl⟩ := intField_read hr
        exact ⟨ha, Nat.le_of_lt (readRaw_length hs).2⟩
    exact readRecord_keeps _ hf h (Nat.le_refl _) (fun x hx => by cases hx) d hd

end Frame

end TradeLedger
