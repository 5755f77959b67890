import Mathlib.Algebra.Ring.Nat
import Mathlib.Tactic.SplitIfs
import GatewayLink.Binary64.Basic

/-! Rounding is monotone: a greater magnitude never rounds to a smaller number. So a conversion or a product
stays finite below operands for which it does. -/

namespace GatewayLink.Binary64

theorem roundDiv_cases (num den : Nat) :
    (roundDiv num den = num / den ∧ 2 * (num % den) ≤ den) ∨
      (roundDiv num den = num / den + 1 ∧ den ≤ 2 * (num % den)) := by
  simp only [roundDiv]
  split
  · exact .inl ⟨rfl, by omega⟩
  · split
    · exact .inr ⟨rfl, by omega⟩
    · rcases Nat.mod_two_eq_zero_or_one (num / den) with even | odd
      · exact .inl ⟨by omega, by omega⟩
      · exact .inr ⟨by omega, by omega⟩

theorem roundDiv_mono {num num' den : Nat} (le : num ≤ num') :
    roundDiv num den ≤ roundDiv num' den := by
  have quotients : num / den ≤ num' / den := Nat.div_le_div_right le
  rcases Nat.lt_or_eq_of_le quotients with less | same
  · rcases roundDiv_cases num den with ⟨rounded, -⟩ | ⟨rounded, -⟩ <;>
      rcases roundDiv_cases num' den with ⟨rounded', -⟩ | ⟨rounded', -⟩ <;> omega
  · -- with equal quotients the remainders decide, and they are ordered as the numerators are
    have remainders : num % den ≤ num' % den := by
      have first := Nat.div_add_mod num den
      have second := Nat.div_add_mod num' den
      rw [same] at first
      omega
    simp only [roundDiv, same]
    split_ifs <;> omega

theorem le_roundDiv {k num den : Nat} (positive : 0 < den) (le : k * den ≤ num) :
    k ≤ roundDiv num den := by
  have whole : k ≤ num / den := (Nat.le_div_iff_mul_le positive).mpr le
  rcases roundDiv_cases num den with ⟨rounded, -⟩ | ⟨rounded, -⟩ <;> omega

theorem roundDiv_le {k num den : Nat} (lt : num < k * den) : roundDiv num den ≤ k := by
  have part : num / den < k := Nat.div_lt_of_lt_mul (by rwa [Nat.mul_comm] at lt)
  rcases roundDiv_cases num den with ⟨rounded, -⟩ | ⟨rounded, -⟩ <;> omega

theorem log2_mono {m n : Nat} (le : m ≤ n) : Nat.log2 m ≤ Nat.log2 n := by
  by_cases zero : m = 0
  · simp [zero]
  · exact (Nat.le_log2 (by omega)).mpr (Nat.le_trans (Nat.log2_self_le zero) le)

theorem roundDiv_le_of_log2 (num : Nat) {den : Nat} (positive : 0 < den) :
    roundDiv num (den * Nat.pow 2 (Nat.log2 (num / den) - 52)) ≤ 2 * hiddenBit := by
  refine roundDiv_le ?_
  have quotient : num / den < 2 ^ (Nat.log2 (num / den) + 1) := Nat.lt_log2_self
  have bound : num < den * 2 ^ (Nat.log2 (num / den) + 1) := by
    rw [Nat.mul_comm]
    exact (Nat.div_lt_iff_lt_mul positive).mp quotient
  have power : 2 ^ (Nat.log2 (num / den) + 1) ≤
      2 * hiddenBit * 2 ^ (Nat.log2 (num / den) - 52) := by
    have hidden : 2 * hiddenBit = 2 ^ 53 := rfl
    rw [hidden, ← Nat.pow_add]
    exact Nat.pow_le_pow_right (by decide) (by omega)
  calc num < den * 2 ^ (Nat.log2 (num / den) + 1) := bound
    _ ≤ den * (2 * hiddenBit * 2 ^ (Nat.log2 (num / den) - 52)) := Nat.mul_le_mul_left den power
    _ = 2 * hiddenBit * (den * Nat.pow 2 (Nat.log2 (num / den) - 52)) := Nat.mul_left_comm ..

theorem hiddenBit_le_roundDiv {num den : Nat} (positive : 0 < den)
    (normal : 0 < Nat.log2 (num / den) - 52) :
    hiddenBit ≤ roundDiv num (den * Nat.pow 2 (Nat.log2 (num / den) - 52)) := by
  refine le_roundDiv (Nat.mul_pos positive (Nat.two_pow_pos _)) ?_
  have nonzero : num / den ≠ 0 := by
    intro zero
    rw [zero] at normal
    exact absurd normal (by decide)
  have quotient : 2 ^ Nat.log2 (num / den) ≤ num / den := Nat.log2_self_le nonzero
  have power : hiddenBit * 2 ^ (Nat.log2 (num / den) - 52) = 2 ^ Nat.log2 (num / den) := by
    have hidden : hiddenBit = 2 ^ 52 := rfl
    rw [hidden, ← Nat.pow_add]
    congr 1
    omega
  calc hiddenBit * (den * Nat.pow 2 (Nat.log2 (num / den) - 52))
      = den * (hiddenBit * 2 ^ (Nat.log2 (num / den) - 52)) := Nat.mul_left_comm ..
    _ ≤ den * (num / den) := by rw [power]; exact Nat.mul_le_mul_left den quotient
    _ ≤ num := Nat.mul_div_le num den

theorem nearestBits_mono {num num' den : Nat} (positive : 0 < den) (le : num ≤ num') :
    nearestBits num den ≤ nearestBits num' den := by
  have logs : Nat.log2 (num / den) ≤ Nat.log2 (num' / den) :=
    log2_mono (Nat.div_le_div_right le)
  have exponents := Nat.sub_le_sub_right logs 52
  refine Nat.le_min.mpr ⟨Nat.le_trans (Nat.min_le_left ..) ?_, Nat.min_le_right ..⟩
  rcases Nat.lt_or_eq_of_le exponents with less | same
  · -- a step of the exponent counts for more than all significands below it
    have most := roundDiv_le_of_log2 num positive
    have least : hiddenBit ≤ roundDiv num' _ := hiddenBit_le_roundDiv positive (by omega)
    have steps := Nat.mul_le_mul_right hiddenBit less
    rw [Nat.succ_mul] at steps
    omega
  · rw [same]
    exact Nat.add_le_add_left (roundDiv_mono le) _

theorem nearestBits_le (num den : Nat) : nearestBits num den ≤ infinityBits := Nat.min_le_right ..

section Magnitude

variable {m n : Nat}

theorem toNat_ofMagnitudeBits (negative : Bool) (le : m ≤ infinityBits) :
    (ofMagnitudeBits negative m).bits.toNat = if negative then signWeight + m else m := by
  have limit : signWeight + infinityBits < 2 ^ 64 := by decide
  rw [ofMagnitudeBits, UInt64.toNat_ofNat', Nat.mod_eq_of_lt]
  split <;> omega

theorem exponentField_ofMagnitudeBits (negative : Bool) (le : m ≤ infinityBits) :
    (ofMagnitudeBits negative m).exponentField = m / hiddenBit := by
  rw [exponentField, toNat_ofMagnitudeBits negative le]
  simp only [infinityBits, hiddenBit, signWeight] at le ⊢
  split <;> omega

theorem fractionField_ofMagnitudeBits (negative : Bool) (le : m ≤ infinityBits) :
    (ofMagnitudeBits negative m).fractionField = m % hiddenBit := by
  rw [fractionField, toNat_ofMagnitudeBits negative le]
  simp only [hiddenBit, signWeight]
  split <;> omega

theorem isFinite_ofMagnitudeBits (negative : Bool) (le : m ≤ infinityBits) :
    (ofMagnitudeBits negative m).isFinite = true ↔ m < infinityBits := by
  rw [isFinite, bne_iff_ne, exponentField_ofMagnitudeBits negative le]
  simp only [infinityBits, hiddenBit] at le ⊢
  omega

theorem fields_of_le (le : m ≤ n) :
    m / hiddenBit < n / hiddenBit ∨
      (m / hiddenBit = n / hiddenBit ∧ m % hiddenBit ≤ n % hiddenBit) := by
  simp only [hiddenBit]
  omega

theorem units_ofMagnitudeBits_mono (negative negative' : Bool) (le : m ≤ n)
    (last : n ≤ infinityBits) :
    (ofMagnitudeBits negative m).units ≤ (ofMagnitudeBits negative' n).units := by
  have first := Nat.le_trans le last
  simp only [units, significand, shift, exponentField_ofMagnitudeBits _ first,
    exponentField_ofMagnitudeBits _ last, fractionField_ofMagnitudeBits _ first,
    fractionField_ofMagnitudeBits _ last]
  have part : m % hiddenBit < hiddenBit := Nat.mod_lt _ (by decide)
  rcases fields_of_le le with less | ⟨same, remainders⟩
  · have enough : hiddenBit * 2 ^ (m / hiddenBit) ≤
        (hiddenBit + n % hiddenBit) * Nat.pow 2 (n / hiddenBit - 1) :=
      Nat.mul_le_mul (Nat.le_add_right ..)
        (Nat.pow_le_pow_right (by decide) (Nat.le_sub_one_of_lt less))
    rw [if_neg (Nat.ne_zero_of_lt less)]
    refine Nat.le_trans ?_ enough
    generalize m / hiddenBit = e at less
    cases e with
    | zero => simpa using Nat.le_of_lt part
    | succ e =>
      rw [if_neg e.succ_ne_zero, Nat.add_sub_cancel, Nat.pow_succ', ← Nat.mul_assoc]
      exact Nat.mul_le_mul_right _ (by omega)
  · rw [same]
    refine Nat.mul_le_mul_right _ ?_
    split
    · exact remainders
    · exact Nat.add_le_add_left remainders _

end Magnitude

theorem unitsPerOne_pos : 0 < unitsPerOne := by decide +kernel

theorem units_ofNat_mono {m n : Nat} (le : m ≤ n) : (ofNat m).units ≤ (ofNat n).units :=
  units_ofMagnitudeBits_mono false false
    (nearestBits_mono (by decide) (Nat.mul_le_mul_right unitsPerOne le)) (nearestBits_le _ _)

theorem isFinite_mul_of_le {x x' y y' : Binary64} (left : x.units ≤ x'.units)
    (right : y.units ≤ y'.units) (finite : (x'.mul y').isFinite = true) :
    (x.mul y).isFinite = true := by
  have positive := Nat.mul_pos unitsPerOne_pos unitsPerOne_pos
  have bits := nearestBits_mono positive
    (Nat.mul_le_mul_right unitsPerOne (Nat.mul_le_mul left right))
  rw [mul, ofRatio, isFinite_ofMagnitudeBits _ (nearestBits_le _ _)] at finite ⊢
  exact Nat.lt_of_le_of_lt bits finite

end GatewayLink.Binary64
