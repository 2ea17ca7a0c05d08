import TradeLedger.Proofs.Frame.Progress
import TradeLedger.Proofs.Event.Ingress
import Mathlib.Data.List.Basic
/-!
# A frame decodes leaf by leaf

A frame is a tree: an array that reads opens into its items, an envelope (an object whose
routing probe reads with no event type but some data) into its data under its stream name, and
every other element is a leaf. Fuel equal to the frame's length is never the limit, as every
child is shorter than its parent. A leaf reports nothing, one event or one error, and a bad leaf
takes nothing from its siblings. The probe reads the stream, data, event type and event time
together, so an envelope whose own routing fields do not read is one bad leaf, its data never
decoded.

## Main definitions

* `Frame.leaves`: the leaves of an element in document order.
* `Frame.leafReport`: what one leaf reports.

## Theorems

* `Frame.decode_eq_leaf_reports`: decoding is the leaves' reports, in order.
* `Frame.bad_time_envelope_hides_event`: an envelope with an unreadable time hides its event.
-/

namespace TradeLedger

/-- What one leaf contributes to the decoding of a frame: nothing, one event or one error. -/
inductive ElementReport where
  | nothing
  | event (ev : Event)
  | error (e : DecodeError)
  deriving Repr

/-- The event a report carries. -/
@[simp] def ElementReport.event? : ElementReport → Option Event
  | .event ev => some ev
  | _ => none

/-- The error a report carries. -/
@[simp] def ElementReport.error? : ElementReport → Option DecodeError
  | .error e => some e
  | _ => none

/-- The events and the errors of a list of reports, each in order. -/
def Decoded.ofReports (rs : List ElementReport) : Decoded :=
  ⟨rs.filterMap ElementReport.event?, rs.filterMap ElementReport.error?⟩

theorem Decoded.ofReports_length (rs : List ElementReport) :
    (ofReports rs).events.length + (ofReports rs).errors.length ≤ rs.length := by
  induction rs with
  | nil => simp [ofReports]
  | cons r rs ih =>
    cases r <;> simp [ofReports, List.filterMap_cons] at ih ⊢ <;> omega

namespace Frame

/-- The children an element opens into, each with the stream it is decoded under: the items
of an array that reads, and the data of an object whose probe reads with no event type but
some data. A leaf has none. -/
def children (frame : List UInt8) (stream : String) : Option (List (String × List UInt8)) :=
  match frame with
  | [] => none
  | b :: _ =>
    if b == 91 then
      match readWhole (readList readRaw 0) frame with
      | .ok items => some ((items.getD []).map fun item => (stream, Utf8.trimBlank item))
      | .error _ => none
    else if b == 123 then
      match readWhole (readRecord .exact probeFields 0 {}) frame with
      | .ok p =>
        match (p.getD {}).type, (p.getD {}).data with
        | none, some d => some [((p.getD {}).stream, Utf8.trimBlank d)]
        | _, _ => none
      | .error _ => none
    else none

theorem children_length {frame : List UInt8} {stream : String} {cs : List (String × List UInt8)}
    (h : children frame stream = some cs) : ∀ c ∈ cs, c.2.length < frame.length := by
  intro c hc
  unfold children at h
  split at h
  · cases h
  split at h
  · -- an item of an array
    split at h
    · rename_i items hitems
      cases h
      obtain ⟨item, hitem, rfl⟩ := List.mem_map.mp hc
      obtain ⟨r, hr⟩ := readWhole_ok hitems
      cases items with
      | none => cases hitem
      | some xs =>
        exact Nat.lt_of_le_of_lt (Utf8.trimBlank_length item) (readList_length hr item hitem)
    · cases h
  split at h
  · -- the data of an envelope
    split at h
    · rename_i p hp
      split at h
      · rename_i d _ hd
        cases h
        rw [List.mem_singleton.mp hc]
        exact Nat.lt_of_le_of_lt (Utf8.trimBlank_length d) (probe_data_length hp hd)
      · cases h
    · cases h
  · cases h

/-- The leaves of an element in document order, each with the stream of its innermost
envelope. -/
def leaves (frame : List UInt8) (stream : String) : List (String × List UInt8) :=
  match _h : children frame stream with
  | some cs => cs.attach.flatMap fun c => leaves c.1.2 c.1.1
  | none => [(stream, frame)]
termination_by frame.length
decreasing_by exact children_length _h c.1 c.2

theorem leaves_of_children {frame : List UInt8} {stream : String}
    {cs : List (String × List UInt8)} (h : children frame stream = some cs) :
    leaves frame stream = cs.flatMap fun c => leaves c.2 c.1 := by
  rw [leaves]
  split
  · rename_i cs' h'
    cases h.symm.trans h'
    rw [List.flatMap_subtype (g := fun c => leaves c.2 c.1) fun _ _ => rfl,
      List.unattach_attach]
  · rename_i h'
    cases h.symm.trans h'

theorem leaves_of_leaf {frame : List UInt8} {stream : String} (h : children frame stream = none) :
    leaves frame stream = [(stream, frame)] := by
  rw [leaves]
  split
  · rename_i cs' h'
    cases h.symm.trans h'
  · rfl

theorem children_of_mem_leaves (frame : List UInt8) (stream : String) :
    ∀ l ∈ leaves frame stream, children l.2 l.1 = none := by
  fun_induction leaves frame stream with
  | case1 frame stream cs hcs ih =>
    intro l hl
    obtain ⟨c, -, hl⟩ := List.mem_flatMap.mp hl
    exact ih c l hl
  | case2 frame stream hcs =>
    intro l hl
    rw [List.mem_singleton.mp hl]
    exact hcs

/-- What a leaf reports under a stream name. An empty element, one that is neither an object
nor an array, and one that does not read are errors; an object with no event type, an empty
one or one that is not a string reports nothing; a known type reports its event, or why its
body is invalid, and an unknown one nothing. -/
def leafReport (stream : String) (leaf : List UInt8) : ElementReport :=
  match leaf with
  | [] => .error .empty
  | b :: _ =>
    if b == 91 then
      match readWhole (readList readRaw 0) leaf with
      | .error f => .error (.unreadable f)
      | .ok _ => .nothing
    else if b == 123 then
      match readWhole (readRecord .exact probeFields 0 {}) leaf with
      | .error f => .error (.unreadable f)
      | .ok p =>
        match (p.getD {}).type with
        | none => .nothing
        | some t =>
          let eventType := eventTypeOf t
          if eventType == "" then .nothing
          else
            match Event.decodeBody eventType leaf with
            | none => .nothing
            | some (.error f) => .error (.invalid eventType f)
            | some (.ok payload) => .event ⟨eventType, (p.getD {}).eventTime, stream, payload⟩
    else .error (.unexpected b)

theorem decodeElement_leaf {fuel : Nat} {frame : List UInt8} {stream : String}
    (h : children frame stream = none) :
    decodeElement (fuel + 1) frame stream = Decoded.ofReports [leafReport stream frame] := by
  unfold children at h
  unfold decodeElement leafReport
  split
  · rfl
  · rename_i b rest
    simp only at h ⊢
    split
    · rename_i h91
      simp only [h91, ite_true] at h
      split at h
      · cases h
      · rename_i f hf
        simp [hf, Decoded.ofReports]
    split
    · rename_i h91 h123
      simp only [h91, h123, ite_true, Bool.false_eq_true, ite_false] at h
      rcases hp : readWhole (readRecord .exact probeFields 0 {}) (b :: rest) with f | p
      · simp [Decoded.ofReports]
      simp only [hp] at h ⊢
      -- a leaf object is no envelope: it has an event type, or no data
      rcases ht : (p.getD {}).type with _ | t
      · rcases hd : (p.getD {}).data with _ | d
        · simp [Decoded.ofReports]
        · simp [ht, hd] at h
      · simp only
        split
        · simp [Decoded.ofReports]
        · rcases Event.decodeBody (eventTypeOf t) (b :: rest) with _ | f | payload <;>
            simp [Decoded.ofReports]
    · simp [Decoded.ofReports]

/-- An element with children decodes to its children's decodings, one after the other. -/
theorem decodeElement_node {fuel : Nat} {frame : List UInt8} {stream : String}
    {cs : List (String × List UInt8)} (h : children frame stream = some cs) :
    decodeElement (fuel + 1) frame stream =
      ⟨cs.flatMap fun c => (decodeElement fuel c.2 c.1).events,
        cs.flatMap fun c => (decodeElement fuel c.2 c.1).errors⟩ := by
  unfold children at h
  match frame with
  | [] => cases h
  | b :: rest =>
    rw [decodeElement]
    simp only at h ⊢
    split
    · rename_i h91
      simp only [h91, ite_true] at h
      split at h
      · rename_i items hitems
        cases h
        simp [hitems, Decoded.foldl_append, List.flatMap_map]
      · cases h
    split
    · rename_i h91 h123
      simp only [h91, h123, ite_true, Bool.false_eq_true, ite_false] at h
      rcases hp : readWhole (readRecord .exact probeFields 0 {}) (b :: rest) with f | p
      · simp [hp] at h
      simp only [hp] at h ⊢
      rcases ht : (p.getD {}).type with _ | t
      · rcases hd : (p.getD {}).data with _ | d
        · simp [ht, hd] at h
        · simp only [ht, hd, Option.some.injEq] at h
          subst h
          simp
      · simp [ht] at h
    · rename_i h91 h123
      simp [h91, h123] at h

/-- An element decodes to the reports of its leaves, in order, when the fuel exceeds its
length. -/
theorem decodeElement_eq_leaves : ∀ (fuel : Nat) (frame : List UInt8) (stream : String),
    frame.length < fuel → decodeElement fuel frame stream =
      Decoded.ofReports ((leaves frame stream).map fun l => leafReport l.1 l.2) := by
  intro fuel
  induction fuel with
  | zero => intro frame stream h; exact absurd h (Nat.not_lt_zero _)
  | succ fuel ih =>
    intro frame stream hlt
    rcases hc : children frame stream with _ | cs
    · rw [decodeElement_leaf hc, leaves_of_leaf hc]
      rfl
    · -- every child is shorter than the element, so the fuel left covers it
      have hcs : ∀ c ∈ cs, decodeElement fuel c.2 c.1 =
          Decoded.ofReports ((leaves c.2 c.1).map fun l => leafReport l.1 l.2) :=
        fun c hc' => ih c.2 c.1 (by have := children_length hc c hc'; omega)
      rw [decodeElement_node hc, leaves_of_children hc]
      simp only [Decoded.ofReports, List.map_flatMap, List.filterMap_flatMap]
      congr 1
      · exact List.flatMap_congr fun c hc' => by rw [hcs c hc']; rfl
      · exact List.flatMap_congr fun c hc' => by rw [hcs c hc']; rfl

theorem decode_entries_le_leaves (frame : List UInt8) :
    (decode frame).events.length + (decode frame).errors.length ≤
      (leaves (Utf8.trimBlank frame) "").length := by
  have h := decodeElement_eq_leaves _ (Utf8.trimBlank frame) "" (Nat.lt_succ_self _)
  unfold decode
  rw [h]
  calc _ ≤ ((leaves (Utf8.trimBlank frame) "").map fun l => leafReport l.1 l.2).length :=
        Decoded.ofReports_length _
    _ = (leaves (Utf8.trimBlank frame) "").length := List.length_map _

/-- A frame decodes to the reports of its leaves in document order: each leaf contributes at
most one event or one error, an event carries the stream of the innermost envelope around it,
and the recursion reaches every leaf however deep the nesting. -/
theorem decode_eq_leaf_reports (frame : List UInt8) :
    decode frame =
      Decoded.ofReports ((leaves (Utf8.trimBlank frame) "").map fun l => leafReport l.1 l.2) :=
  decodeElement_eq_leaves _ _ _ (Nat.lt_succ_self _)

/-- An envelope around a listen-key expiry whose own event time is not a number. -/
def badTimeEnvelope : List UInt8 :=
  "\x7b\"data\":\x7b\"e\":\"listenKeyExpired\"\x7d,\"E\":\"x\"\x7d".toUTF8.toList

/-- The expiry it carries. -/
def badTimeData : List UInt8 := "\x7b\"e\":\"listenKeyExpired\"\x7d".toUTF8.toList

/-- The probe reads an envelope's own event time, so an envelope whose time is not a number
does not open: it is a leaf with one error, and the expiry inside, an event on its own, is
never decoded. -/
theorem bad_time_envelope_hides_event :
    children badTimeEnvelope "" = none ∧ (decode badTimeEnvelope).events.length = 0 ∧
      (decode badTimeEnvelope).errors.map DecodeError.errorClass = [.malformed] ∧
      (decode badTimeData).events.length = 1 := by
  decide +kernel

end Frame

end TradeLedger
