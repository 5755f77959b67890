import Mathlib.Algebra.Order.Group.Unbundled.Int
import GatewayLink.Proofs.Binary64.Shortest
import GatewayLink.Proofs.Json.Number

/-! Every float that is written is read again.
The shortest digits of a finite number are at most eighteen, so a 64-bit word holds them. The word is scaled
down, where nothing can overflow, or scaled up, where the product stays below the end of the rounding interval
of the largest number. That number itself is read by evaluation. -/

namespace GatewayLink.Json

open Text

namespace Literal

theorem float?_of_fits {l : Literal}
    (fits : decimalValue (l.whole ++ l.fraction.getD []) < wordLimit) :
    l.float? = (scaleByTen (Binary64.ofNat (decimalValue (l.whole ++ l.fraction.getD [])))
      (l.exponent.getD 0 - (l.fraction.getD []).length)).map
        fun x => if l.negative then x.neg else x := by
  rw [decimalValue, List.foldl_append] at fits ⊢
  have first := takeDigits_fits (Nat.lt_of_le_of_lt (le_foldl_digits _ (l.fraction.getD [])) fits)
  have second := takeDigits_fits fits
  simp only [float?, first, second, List.length_nil, Nat.cast_zero, add_zero, Nat.sub_zero]

end Literal

theorem isSome_scaleByTen_of_neg (x : Binary64) {e : Int} (negative : e < 0) :
    (scaleByTen x e).isSome = true := by
  fun_induction scaleByTen x e with
  | case1 => omega
  | case2 => omega
  | case3 => rfl
  | case4 => rfl
  | case5 => omega
  | case6 x e far nonzero small ih => exact ih (by omega)

theorem units_powerOfTen_mono {m n : Nat} (le : m ≤ n) :
    (powerOfTen m).units ≤ (powerOfTen n).units :=
  Binary64.units_ofNat_mono (Nat.pow_le_pow_right (by decide) le)

theorem isFinite_mul_powerOfTen {digits places : Nat} (short : digits ≤ 10 ^ 17)
    (most : digits * 10 ^ places ≤ (2 ^ 55 - 6) * 2 ^ 969) (range : places ≤ 308) :
    ((Binary64.ofNat digits).mul (powerOfTen places)).isFinite = true := by
  have few : ((Binary64.ofNat (10 ^ 17)).mul (powerOfTen 291)).isFinite = true := by decide +kernel
  have many : ∀ k < 17, ((Binary64.ofNat ((2 ^ 55 - 6) * 2 ^ 969 / 10 ^ (292 + k))).mul
      (powerOfTen (292 + k))).isFinite = true := by decide +kernel
  rcases Nat.lt_or_ge places 292 with low | high
  · exact Binary64.isFinite_mul_of_le (Binary64.units_ofNat_mono short)
      (units_powerOfTen_mono (Nat.le_of_lt_succ low)) few
  · obtain ⟨k, rfl⟩ := Nat.exists_eq_add_of_le high
    refine Binary64.isFinite_mul_of_le (Binary64.units_ofNat_mono ?_) (Nat.le_refl _)
      (many k (by omega))
    exact (Nat.le_div_iff_mul_le (Nat.pow_pos (by decide))).mpr most

theorem isSome_scaleByTen {digits places : Nat} (short : digits ≤ 10 ^ 17)
    (most : digits * 10 ^ places ≤ (2 ^ 55 - 6) * 2 ^ 969) :
    (scaleByTen (Binary64.ofNat digits) places).isSome = true := by
  rw [scaleByTen, Int.natAbs_natCast, if_pos (Int.natCast_nonneg places), Int.toNat_natCast]
  by_cases range : places ≤ 308
  · simp [range, isFinite_mul_powerOfTen short most range]
  · -- no power of ten past the range leaves room for a digit
    have zero : digits = 0 := by
      have past : ¬ 10 ^ 309 ≤ (2 ^ 55 - 6) * 2 ^ 969 := by decide +kernel
      have power {m n : Nat} (le : m ≤ n) : 10 ^ m ≤ 10 ^ n := Nat.pow_le_pow_right (by decide) le
      by_contra nonzero
      have product : 10 ^ places ≤ digits * 10 ^ places :=
        Nat.le_mul_of_pos_left _ (Nat.pos_of_ne_zero nonzero)
      have far : 309 ≤ places := Nat.lt_of_not_le range
      exact past ((power far).trans (product.trans most))
    have isZero : (Binary64.ofNat 0).isZero = true := by decide +kernel
    simp [range, zero, isZero]

theorem exponentOf?_power (exponent : Int) :
    Literal.exponentOf? ('e' :: (if exponent < 0 then '-' else '+') :: decimal exponent.natAbs) =
      some (some exponent) := by
  have present := decimal_ne_nil exponent.natAbs
  have digits : (decimal exponent.natAbs).all isDigit = true :=
    List.all_eq_true.mpr fun _ => isDigit_of_mem_decimal
  have value := decimalValue_decimal exponent.natAbs
  split
  · next below => simp [Literal.exponentOf?, present, digits, value, abs_of_neg below]
  · next above => simpa [Literal.exponentOf?, present, digits, value] using above

theorem Literal.isSome_number? {l : Literal} (float : l.isPlain = false)
    (fits : decimalValue (l.whole ++ l.fraction.getD []) < wordLimit)
    (scaled : (scaleByTen (Binary64.ofNat (decimalValue (l.whole ++ l.fraction.getD [])))
      (l.exponent.getD 0 - (l.fraction.getD []).length)).isSome = true) :
    l.number?.isSome = true := by
  have read : l.float?.isSome = true := by
    rw [float?_of_fits fits, Option.isSome_map]
    exact scaled
  rw [number?, float]
  simpa using read

section DecimalText

variable {d : Decimal}

def shownFraction (d : Decimal) : List Char := if d.parts.2 = [] then ['0'] else d.parts.2

theorem shownFraction_ne_nil (d : Decimal) : shownFraction d ≠ [] := by
  unfold shownFraction
  split
  · exact List.cons_ne_nil _ _
  · assumption

theorem isDigit_of_mem_shownFraction (digits : ∀ c ∈ d.digits, isDigit c = true) :
    ∀ c ∈ shownFraction d, isDigit c = true := by
  intro c member
  unfold shownFraction at member
  split at member
  · rw [List.mem_singleton.mp member]
    rfl
  · exact isDigit_of_mem_parts digits (.inr member)

theorem wholePart_parts (present : d.digits ≠ []) (digits : ∀ c ∈ d.digits, isDigit c = true)
    (leading : d.digits.head? ≠ some '0') : WholePart d.parts.1 where
  present := by
    unfold Decimal.parts
    split
    · simp [present]
    · exact List.cons_ne_nil _ _
  digits c member := isDigit_of_mem_parts digits (.inl member)
  leading zero := by
    unfold Decimal.parts at zero ⊢
    split at zero
    · obtain ⟨first, rest, text⟩ := List.exists_cons_of_ne_nil present
      rw [text] at zero leading
      exact absurd zero leading
    · next below => rw [if_neg below]

theorem plain_fits (present : d.digits ≠ []) (digits : ∀ c ∈ d.digits, isDigit c = true)
    (length : d.digits.length ≤ 18) (high : d.exponent ≤ 15) :
    decimalValue (d.parts.1 ++ shownFraction d) < wordLimit := by
  refine Nat.lt_trans (m := 10 ^ 18) ?_ (by decide)
  by_cases point : 0 ≤ d.exponent
  · have all : ∀ c ∈ d.parts.1 ++ shownFraction d, isDigit c = true := by
      rw [List.forall_mem_append]
      exact ⟨fun c member => isDigit_of_mem_parts digits (.inl member),
        isDigit_of_mem_shownFraction digits⟩
    have few : (d.parts.1 ++ shownFraction d).length ≤ 18 := by
      simp only [shownFraction, Decimal.parts, if_pos point, List.length_append,
        List.length_take, List.length_replicate, List.drop_eq_nil_iff]
      split <;> simp only [List.length_singleton, List.length_drop] <;> omega
    exact (decimalValue_lt all).trans_le (Nat.pow_le_pow_right (by decide) few)
  · have zeros : d.parts.1 ++ shownFraction d =
        List.replicate ((-d.exponent - 1).toNat + 1) '0' ++ d.digits := by
      simp [shownFraction, Decimal.parts, point, present, List.replicate_succ]
    rw [zeros, decimalValue_zeros_append]
    exact (decimalValue_lt digits).trans_le (Nat.pow_le_pow_right (by decide) length)

theorem isSome_number?_plain (negative : Bool) (present : d.digits ≠ [])
    (digits : ∀ c ∈ d.digits, isDigit c = true) (length : d.digits.length ≤ 18)
    (high : d.exponent ≤ 15) :
    (Literal.mk negative d.parts.1 (some (shownFraction d)) none).number?.isSome = true := by
  refine Literal.isSome_number? rfl (plain_fits present digits length high) ?_
  have long := List.length_pos_of_ne_nil (shownFraction_ne_nil d)
  exact isSome_scaleByTen_of_neg _ (by simp only [Option.getD_none, Option.getD_some]; omega)

theorem isSome_number?_scientific (negative : Bool) {first : Char} {rest : List Char}
    {fraction : Option (List Char)} (shown : fraction.getD [] = rest) {exponent : Int}
    (short : decimalValue (first :: rest) ≤ 10 ^ 17)
    (bounded : ∀ places : Nat, exponent + 1 = places + (first :: rest).length →
      decimalValue (first :: rest) * 10 ^ places ≤ (2 ^ 55 - 6) * 2 ^ 969) :
    (Literal.mk negative [first] fraction (some exponent)).number?.isSome = true := by
  subst shown
  have value : [first] ++ fraction.getD [] = first :: fraction.getD [] := rfl
  refine Literal.isSome_number? (Bool.and_false _) ?_ ?_
  · rw [value]
    exact Nat.lt_of_le_of_lt short (by decide)
  · rw [value, Option.getD_some]
    rcases Int.lt_or_le (exponent - (fraction.getD []).length) 0 with below | above
    · exact isSome_scaleByTen_of_neg _ below
    · obtain ⟨places, scale⟩ := Int.eq_ofNat_of_zero_le above
      rw [scale]
      exact isSome_scaleByTen short (bounded places (by rw [List.length_cons]; omega))

theorem isSome_number?_decimalText (negative : Bool) (present : d.digits ≠ [])
    (digits : ∀ c ∈ d.digits, isDigit c = true) (leading : d.digits.head? ≠ some '0')
    (length : d.digits.length ≤ 18) (short : decimalValue d.digits ≤ 10 ^ 17)
    (bounded : ∀ places : Nat, d.exponent + 1 = places + d.digits.length →
      decimalValue d.digits * 10 ^ places ≤ (2 ^ 55 - 6) * 2 ^ 969) :
    ((Literal.ofWord? (signed negative (Number.decimalText d))).bind Literal.number?).isSome = true := by
  by_cases near : -5 ≤ d.exponent ∧ d.exponent ≤ 15
  · have text : Number.decimalText d = d.parts.1 ++ '.' :: (shownFraction d ++ []) := by
      rw [List.append_nil]
      exact if_pos near
    have ends : ∀ c ∈ ([] : List Char).head?, isDigit c = false := by simp
    have read := (wholePart_parts present digits leading).ofWord?_fraction negative
      (shownFraction_ne_nil d) (isDigit_of_mem_shownFraction digits) ends rfl
    rw [text, read]
    exact isSome_number?_plain negative present digits length near.2
  · obtain ⟨first, rest, text⟩ := List.exists_cons_of_ne_nil present
    rw [text] at digits leading short bounded
    obtain ⟨digit, others⟩ := List.forall_mem_cons.mp digits
    have whole : WholePart [first] :=
      ⟨List.cons_ne_nil _ _, List.forall_mem_singleton.mpr digit, fun zero => absurd zero leading⟩
    have power := exponentOf?_power d.exponent
    cases rest with
    | nil =>
      have scientific : Number.decimalText d = [first] ++ 'e' ::
          (if d.exponent < 0 then '-' else '+') :: decimal d.exponent.natAbs := by
        rw [Number.decimalText, if_neg near, text]
        rfl
      rw [scientific, whole.ofWord?_whole negative (by rintro _ ⟨⟩; decide) power]
      have shown : (none : Option (List Char)).getD [] = [] := rfl
      exact isSome_number?_scientific negative shown short bounded
    | cons second rest =>
      have scientific : Number.decimalText d = [first] ++ '.' :: (second :: rest ++ 'e' ::
          (if d.exponent < 0 then '-' else '+') :: decimal d.exponent.natAbs) := by
        rw [Number.decimalText, if_neg near, text]
        rfl
      rw [scientific, whole.ofWord?_fraction negative (List.cons_ne_nil _ _) others
        (by rintro _ ⟨⟩; decide) power]
      have shown : (some (second :: rest)).getD [] = second :: rest := rfl
      exact isSome_number?_scientific negative shown short bounded

end DecimalText

theorem isSome_number?_floatText {x : Binary64} (finite : x.isFinite = true) :
    ((Literal.ofWord? (Number.floatText x)).bind Literal.number?).isSome = true := by
  have shown : Number.floatText x = signed x.isNegative
      (if x.isZero then "0.0".toList else Number.decimalText x.shortest) := by
    rw [Number.floatText, if_neg (by simp [finite])]
    rfl
  rw [shown]
  cases nonzero : x.isZero with
  | true =>
    rw [if_pos rfl]
    cases x.isNegative <;> decide +kernel
  | false =>
    rw [if_neg Bool.false_ne_true]
    by_cases largest : x.bits.toNat % Binary64.signWeight = Binary64.infinityBits - 1
    · have bits : x = ⟨0x7fefffffffffffff⟩ ∨ x = ⟨0xffefffffffffffff⟩ := by
        have bound := x.bits.toNat_lt
        simp only [Binary64.signWeight, Binary64.infinityBits, Binary64.hiddenBit] at largest
        have values : x.bits.toNat = 0x7fefffffffffffff ∨ x.bits.toNat = 0xffefffffffffffff := by
          omega
        exact values.imp (fun value => congrArg Binary64.mk (UInt64.toNat_inj.mp value))
          fun value => congrArg Binary64.mk (UInt64.toNat_inj.mp value)
      rcases bits with rfl | rfl <;> decide +kernel
    · obtain ⟨present, digits⟩ := Binary64.digits_shortest nonzero
      rcases Binary64.leading_shortest nonzero with zero | leading
      · rw [zero]
        cases x.isNegative <;> decide +kernel
      · exact isSome_number?_decimalText x.isNegative present digits leading
          (Binary64.length_shortest nonzero) (Binary64.value_shortest_le nonzero)
          fun _ exponent => Binary64.magnitude_shortest_le nonzero finite largest exponent

end GatewayLink.Json
