/-!
# UTF-8 bytes as text

Reading bytes as text takes the longest valid encoding at each position (no overlong forms, no
surrogates, nothing above U+10FFFF); a byte that starts no valid encoding stands for U+FFFD on
its own, and reading resumes at the next byte.

## Main definitions

* `Utf8.decode`, `Utf8.lossy`, `Utf8.encode`: reading and writing.

## Theorems

* `Utf8.length_encode`, `Utf8.encode_eq_nil_iff`: the length of an encoding.
-/

namespace TradeLedger

namespace Utf8

/-- A continuation byte `10xxxxxx`. -/
def isContinuation (b : UInt8) : Bool := 0x80 ≤ b && b ≤ 0xBF

/-- Whether `b` lies in the closed range `[lo, hi]`. -/
def inRange (lo hi b : UInt8) : Bool := lo ≤ b && b ≤ hi

/-- The number of bytes of the valid encoding at the head of `b :: rest`, or `0`. The second
byte's range excludes overlong forms, surrogates and code points above U+10FFFF. -/
def width (b : UInt8) (rest : List UInt8) : Nat :=
  if b < 0x80 then 1
  else
    match rest with
    | [] => 0
    | c1 :: rest1 =>
      if inRange 0xC2 0xDF b then (if isContinuation c1 then 2 else 0)
      else
        let second :=
          if b == 0xE0 then inRange 0xA0 0xBF c1
          else if b == 0xED then inRange 0x80 0x9F c1
          else if inRange 0xE1 0xEF b then isContinuation c1
          else if b == 0xF0 then inRange 0x90 0xBF c1
          else if b == 0xF4 then inRange 0x80 0x8F c1
          else if inRange 0xF1 0xF3 b then isContinuation c1
          else false
        if !second then 0
        else
          match rest1 with
          | [] => 0
          | c2 :: rest2 =>
            if !isContinuation c2 then 0
            else if b < 0xF0 then 3
            else
              match rest2 with
              | c3 :: _ => if isContinuation c3 then 4 else 0
              | [] => 0

/-- The code point of a valid encoding of `n` bytes starting with `b`. -/
def codePoint (b : UInt8) (rest : List UInt8) (n : Nat) : Nat :=
  let tail := (rest.take (n - 1)).foldl (fun acc c => acc * 64 + (c.toNat % 64)) 0
  match n with
  | 2 => (b.toNat % 32) * 64 + tail
  | 3 => (b.toNat % 16) * 4096 + tail
  | 4 => (b.toNat % 8) * 262144 + tail
  | _ => b.toNat

/-- The characters of a byte sequence; each byte that starts no valid encoding reads as
U+FFFD. -/
def decode : List UInt8 → List Char
  | [] => []
  | b :: rest =>
    let n := width b rest
    if n = 0 then '�' :: decode rest
    else Char.ofNat (codePoint b rest n) :: decode (rest.drop (n - 1))
termination_by bs => bs.length
decreasing_by all_goals simp_wf; all_goals omega

/-- The text of a byte sequence, invalid bytes as U+FFFD. -/
def lossy (bs : List UInt8) : String := String.ofList (decode bs)

/-- The UTF-8 bytes of a text. -/
def encode (s : String) : List UInt8 := s.toUTF8.toList

theorem length_encode (s : String) : (encode s).length = s.utf8ByteSize := by
  -- `toList` conses the bytes from index `i` on onto `r`, then reverses
  have loop : ∀ n i r, s.toUTF8.size - i = n →
      (ByteArray.toList.loop s.toUTF8 i r).length = r.length + n := by
    intro n
    induction n with
    | zero =>
      intro i r h
      rw [ByteArray.toList.loop.eq_1, if_neg (by omega), List.length_reverse]
      rfl
    | succ n ih =>
      intro i r h
      rw [ByteArray.toList.loop.eq_1, if_pos (by omega), ih (i + 1) _ (by omega),
        List.length_cons]
      omega
  rw [encode, ByteArray.toList.eq_1, loop _ 0 [] rfl, String.toUTF8_eq_toByteArray,
    String.size_toByteArray, List.length_nil, Nat.sub_zero, Nat.zero_add]

theorem encode_eq_nil_iff {s : String} : encode s = [] ↔ s = "" := by
  rw [← List.length_eq_zero_iff, length_encode, String.utf8ByteSize_eq_zero_iff]

end Utf8

end TradeLedger
