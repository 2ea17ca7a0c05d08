import Mathlib
import TradeLedger.Number.Decimal
/-!
# Binary64 words against the float model

`Binary64.ofBits` splits a word into a sign, an eleven-bit exponent and a 52-bit fraction with
natural-number arithmetic; the runtime's float model reads it through `UnpackedFloat.unpack`.
What is said of a `Float` in the model holds of the value computed with once the two agree.

## Theorems

* `pack_unpack`: a valid word reads back from its unpacked float.
* `Binary64.ofBits_isFinite`: a word is finite under one reading exactly when under the other.
* `Binary64.unpack_of_finite`: a finite word has one significand, exponent and sign in both.
* `Binary64.ofFloat_assemble`: a normalised significand assembles into its word.
* `Decimal.ofFloat_isOk`: the decimal of a float exists exactly when the float is finite.
-/

namespace TradeLedger

open Float.Model UnpackedFloat

/-! ### Words the model keeps -/

/-- A word is its sign, exponent and fraction fields put back together. -/
theorem packComponents_fields (b : BitVec Format.binary64.numBits) :
    packComponents .binary64 (Sign.ofBitVec (unpackSign b)) (unpackExponent b) (unpackMantissa b) = b := by
  simp only [packComponents, unpackSign, unpackExponent, unpackMantissa, BitVec.extractLsb]
  have hs : ∀ v : BitVec 1, (Sign.ofBitVec v).toBitVec = v := by decide
  rw [hs]
  ext i hi
  grind

theorem toNat_one_append {w : Nat} (v : BitVec w) : (1#1 ++ v).toNat = 2 ^ w + v.toNat := by
  rw [BitVec.toNat_append, ← Nat.shiftLeft_add_eq_or_of_lt v.isLt]
  simp [Nat.shiftLeft_eq]

theorem pack_unpack {b : BitVec Format.binary64.numBits} (hv : Format.binary64.Valid b) :
    UnpackedFloat.pack .binary64 (UnpackedFloat.unpack .binary64 b) = b := by
  have hfields : ∀ {e m}, unpackExponent b = e → unpackMantissa b = m →
      packComponents .binary64 (Sign.ofBitVec (unpackSign b)) e m = b := by
    intro e m he hm
    subst he hm
    exact packComponents_fields b
  have hbias : ((Format.binary64.exponentBias : Nat) : Int) = 1023 := rfl
  have hmb : ((Format.binary64.mantissaBitsWithoutImplicit : Nat) : Int) = 52 := rfl
  have hmlt : (unpackMantissa b).toNat < 2 ^ 52 := (unpackMantissa b).isLt
  have hElt : (unpackExponent b).toNat < 2 ^ 11 := (unpackExponent b).isLt
  rw [UnpackedFloat.unpack]
  split
  · rename_i hexp
    split
    · rename_i hmant
      exact hfields hexp hmant
    · rename_i hmant
      exact (hv.eq_packedNaN hexp hmant).symm
  · rename_i hexpne
    split
    · rename_i hexp0
      split
      · rename_i hmant
        exact hfields hexp0 hmant
      · rename_i hmant
        -- a subnormal: its biased exponent comes back as one, and its mantissa stays below the
        -- implicit bit
        have hE : (unpackExponent b).toNat = 0 := by rw [hexp0]; rfl
        have hmpos : 0 < (unpackMantissa b).toNat := by
          rcases Nat.eq_zero_or_pos (unpackMantissa b).toNat with h | h
          · exact absurd (BitVec.toNat_inj.mp (by simpa using h)) hmant
          · exact h
        have hbe : (((unpackExponent b).toNat : Int)
            - ((Format.binary64.exponentBias : Nat) + (Format.binary64.mantissaBitsWithoutImplicit : Nat))
            + 1 + (Format.binary64.exponentBias : Nat)
            + (Format.binary64.mantissaBitsWithoutImplicit : Nat)).toNat = 1 := by
          rw [hE, hbias, hmb]; omega
        have hlog : ¬((unpackMantissa b).toNat.log2 + 1 = Format.binary64.mantissaBits) := by
          have h52 : ¬52 ≤ (unpackMantissa b).toNat.log2 := fun hc => by
            have := (Nat.le_log2 (by omega)).mp hc; omega
          have h53 : Format.binary64.mantissaBits = 53 := by decide
          omega
        rw [UnpackedFloat.pack]
        simp only [hbe]
        rw [if_neg (by decide), if_neg hlog]
        refine hfields hexp0 ?_
        rw [BitVec.ofNat_toNat, BitVec.setWidth_eq]
    · rename_i hexpnz
      -- a normal number: the stored exponent comes back, and the implicit bit puts the
      -- mantissa's top bit at 52
      have hEne : (unpackExponent b).toNat ≠ 2 ^ 11 - 1 := fun h =>
        hexpne (BitVec.toNat_inj.mp (by simpa using h))
      have hEnz : (unpackExponent b).toNat ≠ 0 := fun h =>
        hexpnz (BitVec.toNat_inj.mp (by simpa using h))
      have happ : (1#1 ++ unpackMantissa b).toNat = 2 ^ 52 + (unpackMantissa b).toNat :=
        toNat_one_append _
      have hbe : (((unpackExponent b).toNat : Int)
          - ((Format.binary64.exponentBias : Nat) + (Format.binary64.mantissaBitsWithoutImplicit : Nat))
          + (Format.binary64.exponentBias : Nat)
          + (Format.binary64.mantissaBitsWithoutImplicit : Nat)).toNat = (unpackExponent b).toNat := by
        rw [hbias, hmb]; omega
      have hlog : (1#1 ++ unpackMantissa b).toNat.log2 + 1 = Format.binary64.mantissaBits := by
        have h1 : 52 ≤ (1#1 ++ unpackMantissa b).toNat.log2 :=
          (Nat.le_log2 (by omega)).mpr (by omega)
        have h2 : ¬53 ≤ (1#1 ++ unpackMantissa b).toNat.log2 := fun hc => by
          have := (Nat.le_log2 (by omega)).mp hc; omega
        have h53 : Format.binary64.mantissaBits = 53 := by decide
        omega
      rw [UnpackedFloat.pack]
      simp only [hbe]
      rw [if_neg (by simp only [Format.binary64]; omega), if_pos hlog]
      refine hfields ?_ ?_
      · rw [BitVec.ofNat_toNat, BitVec.setWidth_eq]
      · rw [← BitVec.toNat_inj, BitVec.toNat_ofNat, happ,
          show (2 : Nat) ^ Format.binary64.mantissaBitsWithoutImplicit = 2 ^ 52 from rfl]
        omega

/-- A word that is not a NaN other than the canonical one reads back unchanged. -/
theorem Float.toBits_ofBits {w : UInt64} (hv : Format.binary64.Valid w.toBitVec) :
    (Float.ofBits w).toBits = w := by
  show UInt64.ofBitVec (UnpackedFloat.pack .binary64 (UnpackedFloat.unpack .binary64 w.toBitVec)) = w
  rw [pack_unpack hv]

namespace Binary64

/-- Whether a word's value is a number: neither an infinity nor NaN. -/
def isFinite : Binary64 → Bool
  | .finite .. => true
  | _ => false

/-- The powers of two the decoding divides by, as numbers `omega` can use. -/
theorem pow_two_52 : Nat.pow 2 52 = 4503599627370496 := rfl
theorem pow_two_11 : Nat.pow 2 11 = 2048 := rfl
theorem pow_two_53 : Nat.pow 2 53 = 9007199254740992 := rfl
theorem pow_two_63 : Nat.pow 2 63 = 9223372036854775808 := rfl

theorem unpackExponent_toNat (w : UInt64) :
    (@unpackExponent Format.binary64 w.toBitVec).toNat =
      (w.toNat / Nat.pow 2 52) % Nat.pow 2 11 := by
  simp [unpackExponent, Nat.shiftRight_eq_div_pow]

theorem unpackSign_toNat (w : UInt64) :
    (@unpackSign Format.binary64 w.toBitVec).toNat = w.toNat / Nat.pow 2 63 := by
  have hw := w.toNat_lt
  simp [unpackSign, Nat.shiftRight_eq_div_pow]
  omega

theorem unpackMantissa_toNat (w : UInt64) :
    (@unpackMantissa Format.binary64 w.toBitVec).toNat = w.toNat % Nat.pow 2 52 := by
  simp [unpackMantissa]

theorem sign_unpackSign (w : UInt64) :
    Sign.ofBitVec (@unpackSign Format.binary64 w.toBitVec) =
      if Nat.pow 2 63 ≤ w.toNat then .negative else .positive := by
  have h := unpackSign_toNat w
  have hw : w.toNat < 18446744073709551616 := w.toNat_lt
  rw [pow_two_63] at h ⊢
  unfold Sign.ofBitVec
  by_cases hs : 9223372036854775808 ≤ w.toNat
  · rw [if_pos hs, if_neg]
    intro h0
    rw [h0] at h
    simp only [BitVec.toNat_ofNat] at h
    omega
  · rw [if_neg hs, if_pos]
    apply BitVec.eq_of_toNat_eq
    rw [h]
    simp only [BitVec.toNat_ofNat]
    omega

theorem ofBits_isFinite (w : UInt64) :
    (ofBits w).isFinite = (UnpackedFloat.unpack Format.binary64 w.toBitVec).isFinite := by
  -- both readings test the same exponent field for all ones first
  have hall : (@unpackExponent Format.binary64 w.toBitVec = -1#_) ↔
      (w.toNat / Nat.pow 2 52) % Nat.pow 2 11 = 2047 := by
    rw [← unpackExponent_toNat, ← BitVec.toNat_inj]
    simp
  unfold ofBits UnpackedFloat.unpack
  simp only
  by_cases h : (w.toNat / Nat.pow 2 52) % Nat.pow 2 11 = 2047
  · rw [if_pos h, if_pos (hall.mpr h)]
    split <;> split <;> rfl
  · -- below all ones, both sides decode a zero, a subnormal or a normal number
    rw [if_neg h, if_neg (fun h' => h (hall.mp h'))]
    split <;> split <;> (try split) <;> rfl

theorem ofFloat_isFinite (x : Float) : (ofFloat x).isFinite = x.isFinite := by
  rw [ofFloat, ofBits_isFinite]
  rfl

/-! ### Finite words -/

/-- A finite word with a positive significand unpacks to the same significand and exponent. -/
theorem unpack_of_finite {w : UInt64} {neg : Bool} {m : Nat} {e : Int}
    (h : ofBits w = .finite neg m e) (hm : 0 < m) :
    UnpackedFloat.unpack .binary64 w.toBitVec =
      .finite (if neg then .negative else .positive) m e hm := by
  have hE := unpackExponent_toNat w
  have hM := unpackMantissa_toNat w
  have hS := sign_unpackSign w
  unfold ofBits at h
  simp only [pow_two_52, pow_two_11] at h hE hM
  unfold UnpackedFloat.unpack
  simp only
  split at h
  · split at h <;> cases h
  · rename_i hne
    have hall : ¬ (@unpackExponent Format.binary64 w.toBitVec = -1#_) := fun h' => by
      rw [h'] at hE; simp at hE; omega
    rw [if_neg hall, hS]
    split at h
    · rename_i h0
      cases h
      have hz : @unpackExponent Format.binary64 w.toBitVec = 0#_ :=
        BitVec.eq_of_toNat_eq (by rw [hE]; simpa using h0)
      have hmz : ¬ (@unpackMantissa Format.binary64 w.toBitVec = 0#_) := fun h' => by
        rw [h'] at hM; simp at hM; omega
      rw [if_pos hz, dif_neg hmz]
      have hbias : ((Format.binary64.exponentBias : Nat) : Int) = 1023 := rfl
      congr 1
      · simp only [decide_eq_true_eq]
      · rw [hE, h0, hbias]
        rfl
    · rename_i h0
      cases h
      have hz : ¬ (@unpackExponent Format.binary64 w.toBitVec = 0#_) := fun h' => by
        rw [h'] at hE; simp at hE; omega
      rw [if_neg hz]
      have hbias : ((Format.binary64.exponentBias : Nat) : Int) = 1023 := rfl
      congr 1
      · simp only [decide_eq_true_eq]
      · rw [toNat_one_append, unpackMantissa_toNat, pow_two_52,
          show (2 : Nat) ^ Format.binary64.mantissaBitsWithoutImplicit = 4503599627370496 from rfl]
        omega
      · rw [hE, hbias]
        rfl

theorem unpack_of_finite_zero {w : UInt64} {neg : Bool} {e : Int}
    (h : ofBits w = .finite neg 0 e) :
    UnpackedFloat.unpack .binary64 w.toBitVec = .zero (if neg then .negative else .positive) := by
  have hE := unpackExponent_toNat w
  have hM := unpackMantissa_toNat w
  have hS := sign_unpackSign w
  unfold ofBits at h
  simp only [pow_two_52, pow_two_11] at h hE hM
  unfold UnpackedFloat.unpack
  simp only
  split at h
  · split at h <;> cases h
  · rename_i hne
    have hall : ¬ (@unpackExponent Format.binary64 w.toBitVec = -1#_) := fun h' => by
      rw [h'] at hE; simp at hE; omega
    rw [if_neg hall, hS]
    split at h
    · rename_i h0
      obtain ⟨rfl, hf, -⟩ := Binary64.finite.inj h
      have hz : @unpackExponent Format.binary64 w.toBitVec = 0#_ :=
        BitVec.eq_of_toNat_eq (by rw [hE]; simpa using h0)
      have hmz : @unpackMantissa Format.binary64 w.toBitVec = 0#_ :=
        BitVec.eq_of_toNat_eq (by rw [hM, hf]; simp)
      rw [if_pos hz, dif_pos hmz]
      simp only [decide_eq_true_eq]
    · -- a normal significand is never zero
      obtain ⟨-, hf, -⟩ := Binary64.finite.inj h
      omega


theorem beq_zero_eq_false {x : Float} {neg : Bool} {m : Nat} {e : Int}
    (h : ofFloat x = .finite neg m e) (hm : 0 < m) : (x == 0) = false := by
  show x.toModel.unpack.beq (0 : Float).toModel.unpack = false
  have hx : x.toModel.unpack = _ := unpack_of_finite h hm
  rw [hx]
  cases neg <;> rfl

theorem ofFloat_of_pos {x : Float} (hx : 0 < x) (hfin : x.isFinite) :
    ∃ m e, 0 < m ∧ ofFloat x = .finite false m e := by
  have hlt : (0 : Float).toModel.unpack.lt x.toModel.unpack = true := by
    have h := hx
    simp only [LT.lt, Float.lt, Float.Model.lt] at h
    exact of_decide_eq_true h
  rw [← ofFloat_isFinite] at hfin
  rcases hof : ofFloat x with _ | neg | ⟨neg, m, e⟩
  · rw [hof] at hfin; cases hfin
  · rw [hof] at hfin; cases hfin
  · rcases Nat.eq_zero_or_pos m with rfl | hm
    · -- zero is not above zero
      have hz : x.toModel.unpack = _ := unpack_of_finite_zero hof
      rw [hz] at hlt
      cases neg <;> cases hlt
    · cases neg
      · exact ⟨m, e, hm, rfl⟩
      · -- a negative value is below zero
        have hn : x.toModel.unpack = _ := unpack_of_finite hof hm
        rw [hn] at hlt
        cases hlt

/-! ### Assembling a word -/

/-- A word whose exponent field is not all ones is no NaN, so the model keeps it. -/
theorem valid_of_exponent {w : UInt64} (h : (w.toNat / Nat.pow 2 52) % Nat.pow 2 11 ≠ 2047) :
    Format.binary64.Valid w.toBitVec :=
  ⟨fun hall _ => absurd (by rw [← unpackExponent_toNat, hall]; rfl) h⟩

/-- Reading back an assembled word gives its sign, significand and exponent, when the
significand is normalised and the exponent in range. -/
theorem ofFloat_assemble {neg : Bool} {q : Nat} {e : Int} (hq : q < Nat.pow 2 53)
    (hnorm : Nat.pow 2 52 ≤ q ∨ e = minExponent) (hlo : minExponent ≤ e)
    (hhi : e ≤ maxExponent) :
    ofFloat (assemble neg q e) = .finite neg q e := by
  have hmin : minExponent = -1074 := rfl
  have hmax : maxExponent = 971 := rfl
  rw [pow_two_53] at hq
  rw [pow_two_52, hmin] at hnorm
  rw [hmin] at hlo
  rw [hmax] at hhi
  unfold assemble
  simp only [pow_two_52, pow_two_63]
  -- the word is below 2 ^ 64, so it is read back as the number it was built from
  generalize hN : (if neg = true then 9223372036854775808 else 0) +
      (if q < 4503599627370496 then q else (e + 1075).toNat * 4503599627370496 +
        (q - 4503599627370496)) = N
  have hNlt : N < 18446744073709551616 := by
    subst hN
    split <;> split <;> omega
  have hw : (UInt64.ofNat N).toNat = N := by
    rw [UInt64.toNat_ofNat', Nat.mod_eq_of_lt (by simpa using hNlt)]
  have hexp : (N / 4503599627370496) % 2048 ≠ 2047 := by
    subst hN
    split <;> split <;> omega
  rw [ofFloat, Float.toBits_ofBits (valid_of_exponent (by rw [hw, pow_two_52, pow_two_11]; exact hexp))]
  unfold ofBits
  simp only [hw, pow_two_52, pow_two_63, pow_two_11, hmin]
  subst hN
  rw [if_neg hexp]
  by_cases hsub : q < 4503599627370496
  · -- a subnormal: the exponent field is zero and the fraction is the significand
    have he : e = -1074 := hnorm.resolve_left (by omega)
    subst he
    simp only [hsub, ↓reduceIte]
    rw [if_pos (by split <;> omega)]
    congr 1
    · cases neg
      · exact decide_eq_false (by simp only [Bool.false_eq_true, ↓reduceIte]; omega)
      · exact decide_eq_true (by simp only [↓reduceIte]; omega)
    · split <;> omega
  · -- a normal number: the exponent field is `e + 1075`, the fraction the significand's low bits
    simp only [hsub, ↓reduceIte]
    rw [if_neg (by split <;> omega), finite.injEq]
    refine ⟨?_, ?_, ?_⟩
    · cases neg
      · exact decide_eq_false (by simp only [Bool.false_eq_true, ↓reduceIte]; omega)
      · exact decide_eq_true (by simp only [↓reduceIte]; omega)
    · split <;> omega
    · split <;> omega

end Binary64

theorem Decimal.ofFloat_isOk (x : Float) : (Decimal.ofFloat x).isOk = x.isFinite := by
  rw [← Binary64.ofFloat_isFinite]
  unfold Decimal.ofFloat
  rcases Binary64.ofFloat x with _ | neg | ⟨neg, m, e⟩
  · rfl
  · rfl
  · -- a finite word always has a decimal, zero or its shortest digits
    dsimp only
    split <;> rfl

end TradeLedger
