import Mathlib.Algebra.Ring.Nat
import Mathlib.Data.List.TakeWhile
import GatewayLink.Binary64.Shortest
import GatewayLink.Proofs.Binary64.Rounding
import GatewayLink.Proofs.Text.Digits

/-! The digits of a shortest decimal number: there is at least one, at most eighteen, and nothing else
stands among them. The number they tell is less than the magnitude at which reading would overflow, unless
it stands for a largest finite number. -/

namespace GatewayLink

open Text

namespace Decimal

theorem mem_of_mem_dropTrailingZeros {ds : List Char} {c : Char}
    (member : c ∈ dropTrailingZeros ds) : c ∈ ds := by
  rw [dropTrailingZeros, List.mem_reverse] at member
  exact List.mem_reverse.mp ((List.dropWhile_suffix _).subset member)

theorem dropTrailingZeros_ne_nil {ds : List Char} {c : Char} (member : c ∈ ds)
    (significant : c ≠ '0') : dropTrailingZeros ds ≠ [] := by
  rw [dropTrailingZeros, Ne, List.reverse_eq_nil_iff, List.dropWhile_eq_nil_iff]
  intro zeros
  exact significant (by simpa using zeros c (List.mem_reverse.mpr member))

theorem dropTrailingZeros_append (ds : List Char) :
    ∃ zeros, ds = dropTrailingZeros ds ++ List.replicate zeros '0' := by
  refine ⟨(ds.reverse.takeWhile (· == '0')).length, ?_⟩
  have zeros : (ds.reverse.takeWhile (· == '0')).reverse =
      List.replicate (ds.reverse.takeWhile (· == '0')).length '0' := by
    refine List.eq_replicate_iff.mpr ⟨List.length_reverse, fun c member => ?_⟩
    simpa using List.mem_takeWhile_imp (List.mem_reverse.mp member)
  rw [dropTrailingZeros, ← zeros, ← List.reverse_append, List.takeWhile_append_dropWhile,
    List.reverse_reverse]

theorem exists_ofScaled {n : Nat} (positive : 0 < n) (scale : Int) :
    ∃ zeros : Nat, n = decimalValue (ofScaled n scale).digits * 10 ^ zeros ∧
      (ofScaled n scale).exponent + 1 = scale + zeros + (ofScaled n scale).digits.length ∧
      (ofScaled n scale).digits.head? ≠ some '0' := by
  obtain ⟨zeros, split⟩ := dropTrailingZeros_append (decimal n)
  have digits : (ofScaled n scale).digits = dropTrailingZeros (decimal n) := rfl
  have exponent : (ofScaled n scale).exponent = scale + (decimal n).length - 1 := rfl
  have length := congrArg List.length split
  rw [List.length_append, List.length_replicate] at length
  refine ⟨zeros, ?_, ?_, ?_⟩
  · rw [digits, ← decimalValue_append_zeros, ← split, decimalValue_decimal]
  · rw [digits, exponent]
    omega
  · rw [digits]
    intro leading
    have zero : n = 0 := by
      apply head?_decimal_eq_zero
      rw [split, List.head?_append, leading]
      rfl
    omega

theorem lt_pow_length_toDigits (n : Nat) : n < 10 ^ (Nat.toDigits 10 n).length :=
  (Nat.length_toDigits_le_iff (by decide) Nat.length_toDigits_pos).mp (Nat.le_refl _)

theorem pow_length_toDigits_le {n : Nat} (positive : 0 < n) :
    10 ^ ((Nat.toDigits 10 n).length - 1) ≤ n := by
  by_contra less
  rcases Nat.eq_zero_or_pos ((Nat.toDigits 10 n).length - 1) with single | more
  · rw [single] at less
    omega
  · have shorter := (Nat.length_toDigits_le_iff (by decide) more).mpr (Nat.lt_of_not_le less)
    omega

theorem lt_of_leadingExponent {num den : Nat} (numPositive : 0 < num) (denPositive : 0 < den) :
    num * 10 ^ (-(leadingExponent num den + 1)).toNat <
      den * 10 ^ (leadingExponent num den + 1).toNat := by
  unfold leadingExponent
  split
  · next le =>
    have last := lt_pow_length_toDigits (num / den)
    have below : ((Nat.toDigits 10 (num / den)).length - 1 + 1 : Int) =
      (Nat.toDigits 10 (num / den)).length := by omega
    rw [below, Int.toNat_natCast, Int.toNat_neg_natCast, Nat.pow_zero, Nat.mul_one, Nat.mul_comm]
    exact (Nat.div_lt_iff_lt_mul denPositive).mp last
  · next lt =>
    have quotientPositive : 0 < (den - 1) / num := Nat.div_pos (by omega) numPositive
    have first := pow_length_toDigits_le quotientPositive
    have long := Nat.length_toDigits_pos (b := 10) (n := (den - 1) / num)
    generalize (Nat.toDigits 10 ((den - 1) / num)).length = length at first long ⊢
    obtain ⟨k, rfl⟩ : ∃ k, length = k + 1 := ⟨length - 1, by omega⟩
    have up : (-((k + 1 : Nat) : Int) + 1).toNat = 0 := by omega
    have down : (-(-((k + 1 : Nat) : Int) + 1)).toNat = k := by omega
    rw [up, down, Nat.pow_zero, Nat.mul_one]
    have fits := (Nat.le_div_iff_mul_le numPositive).mp first
    rw [Nat.add_sub_cancel, Nat.mul_comm] at fits
    omega

theorem digits_ofScaled {n : Nat} (denPositive : 0 < n) (scale : Int) :
    (ofScaled n scale).digits ≠ [] ∧ ∀ c ∈ (ofScaled n scale).digits, isDigit c = true := by
  constructor
  · obtain ⟨d, ds, text⟩ := List.exists_cons_of_ne_nil (decimal_ne_nil n)
    refine dropTrailingZeros_ne_nil (c := d) ?_ ?_
    · show d ∈ decimal n
      rw [text]
      exact List.mem_cons_self
    · rintro rfl
      have zero : n = 0 := head?_decimal_eq_zero (by rw [text]; rfl)
      omega
  · intro c member
    exact isDigit_of_mem_decimal (mem_of_mem_dropTrailingZeros member)

end Decimal

namespace Binary64

variable {x : Binary64}

theorem significand_pos (nonzero : x.isZero = false) : 0 < x.significand := by
  rw [isZero, beq_eq_false_iff_ne, units] at nonzero
  exact Nat.pos_of_ne_zero fun zero => nonzero (by rw [zero, Nat.zero_mul])

theorem roundsHere_zero (nonzero : x.isZero = false) {den : Nat} (positive : 0 < den) :
    x.roundsHere 0 den = false := by
  have significandPositive := significand_pos nonzero
  have gap : x.lowerGap ≤ 2 := by
    unfold lowerGap
    split <;> decide
  have low : 0 < (4 * x.significand - x.lowerGap) * den := Nat.mul_pos (by omega) positive
  simp only [roundsHere]
  split
  · rw [Bool.and_eq_false_iff]
    exact .inl (decide_eq_false (by omega))
  · rw [Bool.and_eq_false_iff]
    exact .inl (decide_eq_false (by omega))

theorem gridPoint?_pos (nonzero : x.isZero = false) {scale : Int} {n : Nat}
    (found : x.gridPoint? scale = some n) : 0 < n := by
  have den : 0 < Nat.pow 2 x.shift * Nat.pow 10 (-scale).toNat :=
    Nat.mul_pos (Nat.pow_pos (by decide)) (Nat.pow_pos (by decide))
  have zero : x.roundsHere (4 * 0 * (unitsPerOne * Nat.pow 10 scale.toNat))
      (Nat.pow 2 x.shift * Nat.pow 10 (-scale).toNat) = false := by
    rw [Nat.mul_zero, Nat.zero_mul]
    exact roundsHere_zero nonzero den
  refine Nat.pos_of_ne_zero fun isZero => ?_
  subst isZero
  simp only [gridPoint?] at found
  split at found
  · next below _ =>
    split at found
    · rw [Option.some.inj found, zero] at below
      cases below
    · split at found
      · cases found
      · have first := (Nat.add_eq_zero_iff.mp (Option.some.inj found)).1
        rw [first, zero] at below
        cases below
  · next below _ =>
    rw [Option.some.inj found, zero] at below
    cases below
  · cases found
  · cases found

theorem gridPoint?_eq_some {x : Binary64} {n : Nat} {scale : Int}
    (found : x.gridPoint? scale = some n) :
    n ≤ x.units * Nat.pow 10 (-scale).toNat / (unitsPerOne * Nat.pow 10 scale.toNat) + 1 ∧
      x.roundsHere (4 * n * (unitsPerOne * Nat.pow 10 scale.toNat))
        (Nat.pow 2 x.shift * Nat.pow 10 (-scale).toNat) = true := by
  simp only [gridPoint?] at found
  split at found
  · next below above =>
    have either := Option.some.inj found
    split at either
    · rw [← either]
      exact ⟨Nat.le_succ _, below⟩
    · split at either
      · rw [← either]
        exact ⟨Nat.le_refl _, above⟩
      · rcases Nat.mod_two_eq_zero_or_one (x.units * Nat.pow 10 (-scale).toNat /
            (unitsPerOne * Nat.pow 10 scale.toNat)) with even | odd
        · rw [even] at either
          rw [← either]
          exact ⟨Nat.le_succ _, below⟩
        · rw [odd] at either
          rw [← either]
          exact ⟨Nat.le_refl _, above⟩
  · next below _ =>
    rw [← Option.some.inj found]
    exact ⟨Nat.le_succ _, below⟩
  · next _ above =>
    rw [← Option.some.inj found]
    exact ⟨Nat.le_refl _, above⟩
  · cases found

theorem lt_of_shifted {num den a b c d : Nat} (less : num * 10 ^ c < den * 10 ^ d)
    (places : a + d = c + b) : num * 10 ^ a < den * 10 ^ b := by
  refine Nat.lt_of_mul_lt_mul_right (a := 10 ^ d) ?_
  calc num * 10 ^ a * 10 ^ d = num * 10 ^ c * 10 ^ b := by
        rw [Nat.mul_assoc, Nat.mul_assoc, ← Nat.pow_add, ← Nat.pow_add, places]
    _ < den * 10 ^ d * 10 ^ b := Nat.mul_lt_mul_of_pos_right less (Nat.pow_pos (by decide))
    _ = den * 10 ^ b * 10 ^ d := Nat.mul_right_comm ..

theorem gridPoint?_le {x : Binary64} (nonzero : x.isZero = false) {n more : Nat}
    (found : x.gridPoint? (Decimal.leadingExponent x.units unitsPerOne - more) = some n) :
    n ≤ 10 ^ (more + 1) := by
  have unitsPositive : 0 < x.units := Nat.pos_of_ne_zero (by simpa [isZero] using nonzero)
  have leading := Decimal.lt_of_leadingExponent unitsPositive unitsPerOne_pos
  refine Nat.le_trans (gridPoint?_eq_some found).1 (Nat.succ_le_of_lt (Nat.div_lt_of_lt_mul ?_))
  generalize Decimal.leadingExponent x.units unitsPerOne = lead at leading
  show x.units * 10 ^ (-(lead - more)).toNat <
    unitsPerOne * 10 ^ (lead - more).toNat * 10 ^ (more + 1)
  rw [Nat.mul_assoc, ← Nat.pow_add]
  exact lt_of_shifted leading (by omega)

theorem interval_le_of_not_largest {x : Binary64} (finite : x.isFinite = true)
    (less : x.bits.toNat % signWeight ≠ infinityBits - 1) :
    (4 * x.significand + 2) * 2 ^ x.shift ≤ (2 ^ 55 - 6) * 2 ^ 2045 := by
  rw [isFinite, bne_iff_ne] at finite
  obtain ⟨last, lastShift⟩ : ∃ last, last + 1 = 2045 := ⟨2044, rfl⟩
  have parts : x.significand ≤ 2 * hiddenBit - 1 ∧ x.shift ≤ last ∨
      x.significand ≤ 2 * hiddenBit - 2 ∧ x.shift ≤ last + 1 := by
    rw [significand, shift]
    split
    all_goals
      simp only [exponentField, fractionField, hiddenBit, signWeight, infinityBits] at *
      omega
  rw [← lastShift]
  simp only [hiddenBit] at parts
  rcases parts with ⟨digits, steps⟩ | ⟨digits, steps⟩
  · calc (4 * x.significand + 2) * 2 ^ x.shift ≤ (2 ^ 55 - 6) * 2 * 2 ^ last :=
          Nat.mul_le_mul (by omega) (Nat.pow_le_pow_right (by decide) steps)
      _ = (2 ^ 55 - 6) * 2 ^ (last + 1) := by rw [Nat.mul_assoc, ← Nat.pow_succ']
  · exact Nat.mul_le_mul (by omega) (Nat.pow_le_pow_right (by decide) steps)

/-- The shortest decimal is a point of one of the seventeen grids; a search without a find is left to show
zero. -/
theorem shortest_cases (x : Binary64) :
    x.shortest = ⟨['0'], 0⟩ ∨ ∃ more < 17, ∃ n,
      x.gridPoint? (Decimal.leadingExponent x.units unitsPerOne - (more : Nat)) = some n ∧
        x.shortest = Decimal.ofScaled n (Decimal.leadingExponent x.units unitsPerOne - (more : Nat)) := by
  rw [shortest]
  dsimp only
  cases found : (List.range 17).findSome? fun (more : Nat) =>
      (x.gridPoint? (Decimal.leadingExponent x.units unitsPerOne - more)).map
        (Decimal.ofScaled · (Decimal.leadingExponent x.units unitsPerOne - more)) with
  | none => exact .inl rfl
  | some d =>
    obtain ⟨more, within, point⟩ := List.exists_of_findSome?_eq_some found
    obtain ⟨n, grid, rfl⟩ := Option.map_eq_some_iff.mp point
    exact .inr ⟨more, List.mem_range.mp within, n, grid, rfl⟩

theorem digits_shortest (nonzero : x.isZero = false) :
    x.shortest.digits ≠ [] ∧ ∀ c ∈ x.shortest.digits, isDigit c = true := by
  rcases x.shortest_cases with zero | ⟨more, -, n, grid, point⟩
  · simp [zero, isDigit]
  · rw [point]
    exact Decimal.digits_ofScaled (gridPoint?_pos nonzero grid) _

theorem leading_shortest (nonzero : x.isZero = false) :
    x.shortest = ⟨['0'], 0⟩ ∨ x.shortest.digits.head? ≠ some '0' := by
  rcases x.shortest_cases with zero | ⟨more, -, n, grid, point⟩
  · exact .inl zero
  · rw [point]
    obtain ⟨_, -, -, significant⟩ := Decimal.exists_ofScaled (gridPoint?_pos nonzero grid)
      (Decimal.leadingExponent x.units unitsPerOne - more)
    exact .inr significant

theorem gridPoint?_le_of_within (nonzero : x.isZero = false) {more n : Nat} (within : more < 17)
    (found : x.gridPoint? (Decimal.leadingExponent x.units unitsPerOne - more) = some n) :
    n ≤ 10 ^ 17 :=
  Nat.le_trans (gridPoint?_le nonzero found) (Nat.pow_le_pow_right (by decide) (by omega))

theorem length_shortest (nonzero : x.isZero = false) : x.shortest.digits.length ≤ 18 := by
  rcases x.shortest_cases with zero | ⟨more, within, n, grid, point⟩
  · simp [zero]
  · have most := gridPoint?_le_of_within nonzero within grid
    have length : (decimal n).length ≤ 18 :=
      (Nat.length_toDigits_le_iff (by decide) (by decide)).mpr (by omega)
    obtain ⟨zeros, split⟩ := Decimal.dropTrailingZeros_append (decimal n)
    have shorter := congrArg List.length split
    have digits : (Decimal.ofScaled n (Decimal.leadingExponent x.units unitsPerOne - more)).digits =
      Decimal.dropTrailingZeros (decimal n) := rfl
    rw [List.length_append] at shorter
    rw [point, digits]
    omega

theorem value_shortest_le (nonzero : x.isZero = false) :
    decimalValue x.shortest.digits ≤ 10 ^ 17 := by
  rcases x.shortest_cases with zero | ⟨more, within, n, grid, point⟩
  · rw [zero]
    decide
  · have most := gridPoint?_le_of_within nonzero within grid
    obtain ⟨zeros, value, -, -⟩ := Decimal.exists_ofScaled (gridPoint?_pos nonzero grid)
      (Decimal.leadingExponent x.units unitsPerOne - more)
    rw [point]
    exact Nat.le_trans (Nat.le_mul_of_pos_right _ (Nat.pow_pos (by decide))) (value ▸ most)

theorem le_of_shifted_le {digits unit interval most zeros up places down : Nat} (positive : 0 < unit)
    (upper : 4 * (digits * 10 ^ zeros) * (unit * 10 ^ up) ≤ interval * 10 ^ down)
    (last : interval ≤ most * (4 * unit)) (places_eq : zeros + up = places + down) :
    digits * 10 ^ places ≤ most := by
  refine Nat.le_of_mul_le_mul_right ?_ (Nat.mul_pos (by decide : 0 < 4) positive)
  refine Nat.le_of_mul_le_mul_right ?_ (Nat.pow_pos (by decide : 0 < 10) (n := down))
  calc digits * 10 ^ places * (4 * unit) * 10 ^ down
      = digits * (4 * unit) * 10 ^ (zeros + up) := by
        rw [places_eq, Nat.pow_add]
        ac_rfl
    _ = 4 * (digits * 10 ^ zeros) * (unit * 10 ^ up) := by
        rw [Nat.pow_add]
        ac_rfl
    _ ≤ interval * 10 ^ down := upper
    _ ≤ most * (4 * unit) * 10 ^ down := Nat.mul_le_mul_right _ last

/-- Digits and exponent together tell a number in the rounding interval, so below the end of that of the
largest number. -/
theorem magnitude_shortest_le (nonzero : x.isZero = false) (finite : x.isFinite = true)
    (less : x.bits.toNat % signWeight ≠ infinityBits - 1) {places : Nat}
    (exponent : x.shortest.exponent + 1 = places + x.shortest.digits.length) :
    decimalValue x.shortest.digits * 10 ^ places ≤ (2 ^ 55 - 6) * 2 ^ 969 := by
  rcases x.shortest_cases with zero | ⟨more, within, n, grid, point⟩
  · rw [zero]
    exact Nat.le_trans (Nat.le_of_eq (Nat.zero_mul _)) (Nat.zero_le _)
  · rw [point] at exponent ⊢
    generalize Decimal.leadingExponent x.units unitsPerOne - (more : Int) = scale at grid exponent ⊢
    obtain ⟨zeros, value, length, -⟩ :=
      Decimal.exists_ofScaled (gridPoint?_pos nonzero grid) scale
    have places_eq : zeros + scale.toNat = places + (-scale).toNat := by omega
    have upper : 4 * n * (unitsPerOne * 10 ^ scale.toNat) ≤
        (4 * x.significand + 2) * (2 ^ x.shift * 10 ^ (-scale).toNat) := by
      have rounds := (gridPoint?_eq_some grid).2
      simp only [roundsHere] at rounds
      split at rounds <;> simp only [Bool.and_eq_true, decide_eq_true_eq] at rounds
      · exact rounds.2
      · exact Nat.le_of_lt rounds.2
    have inUnits : (2 ^ 55 - 6) * 2 ^ 2045 = (2 ^ 55 - 6) * 2 ^ 969 * (4 * unitsPerOne) := by
      decide +kernel
    rw [← Nat.mul_assoc _ (2 ^ x.shift), value] at upper
    exact le_of_shifted_le unitsPerOne_pos upper
      ((interval_le_of_not_largest finite less).trans_eq inUnits) places_eq

end Binary64

end GatewayLink
