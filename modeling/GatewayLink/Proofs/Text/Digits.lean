import Mathlib.Algebra.Ring.Nat
import Mathlib.Data.List.Induction
import GatewayLink.Text.Blank
import GatewayLink.Text.Digits

/-! Reading back decimal digits: the value, the length and the first digit of a number in decimal form,
padded or not. -/

namespace GatewayLink.Text

theorem isDigit_eq (c : Char) : isDigit c = c.isDigit := by
  simp only [isDigit, Char.isDigit, Char.le_def]

theorem decimalValue_eq (ds : List Char) : decimalValue ds = Nat.ofDigitChars 10 ds 0 := rfl

theorem decimalValue_decimal (n : Nat) : decimalValue (decimal n) = n := by
  rw [decimalValue_eq, decimal, Nat.ofDigitChars_ten_toDigits]

theorem decimalValue_append_zeros (ds : List Char) (zeros : Nat) :
    decimalValue (ds ++ List.replicate zeros '0') = decimalValue ds * 10 ^ zeros := by
  rw [decimalValue_eq, Nat.ofDigitChars_append, Nat.ofDigitChars_replicate_zero, Nat.mul_comm]
  rfl

theorem decimalValue_zeros_append (zeros : Nat) (ds : List Char) :
    decimalValue (List.replicate zeros '0' ++ ds) = decimalValue ds := by
  rw [decimalValue_eq, Nat.ofDigitChars_append, Nat.ofDigitChars_replicate_zero, Nat.mul_zero]
  rfl

theorem toNat_of_isDigit {c : Char} (digit : isDigit c = true) : 48 ≤ c.toNat ∧ c.toNat ≤ 57 := by
  simpa [isDigit, Char.le_def, UInt32.le_iff_toNat_le] using digit

theorem digitChar_digitValue {c : Char} (digit : isDigit c = true) :
    digitValue c < 10 ∧ (digitValue c).digitChar = c := by
  obtain ⟨low, high⟩ := toNat_of_isDigit digit
  have value : digitValue c = c.toNat - 48 := rfl
  have small : digitValue c < 10 := by omega
  refine ⟨small, Char.toNat_inj.mp ?_⟩
  rw [Nat.toNat_digitChar_of_lt_ten small]
  omega

theorem decimalValue_lt {ds : List Char} (digits : ∀ c ∈ ds, isDigit c = true) :
    decimalValue ds < 10 ^ ds.length := by
  induction ds using List.reverseRecOn with
  | nil => decide
  | append_singleton ds c ih =>
    have front := ih fun d member => digits d (List.mem_append_left _ member)
    have digit := (digitChar_digitValue (digits c (by simp))).1
    rw [decimalValue_append_digit, List.length_append, List.length_singleton, Nat.pow_succ]
    omega

theorem decimal_ne_nil (n : Nat) : decimal n ≠ [] := Nat.toDigits_ne_nil

theorem isDigit_of_mem_decimal {n : Nat} {c : Char} (member : c ∈ decimal n) :
    isDigit c = true := by
  rw [isDigit_eq]
  exact Nat.isDigit_of_mem_toDigits (by decide) (by decide) member

theorem head?_decimal_eq_zero {n : Nat} (leading : (decimal n).head? = some '0') : n = 0 := by
  induction n using Nat.strongRecOn with
  | ind n ih =>
    by_cases small : n < 10
    · rw [decimal, Nat.toDigits_of_lt_base small] at leading
      simpa using leading
    · have front : (decimal n).head? = (decimal (n / 10)).head? := by
        rw [decimal, Nat.toDigits_of_base_le (by decide) (by omega), List.head?_append,
          Option.or_of_isSome]
        · rfl
        · simp [List.isSome_head?]
      have zero := ih (n / 10) (by omega) (front.symm.trans leading)
      omega

theorem decimal_decimalValue {ds : List Char} (present : ds ≠ [])
    (digits : ∀ c ∈ ds, isDigit c = true) (leading : ds.head? = some '0' → ds = ['0']) :
    decimal (decimalValue ds) = ds := by
  induction ds using List.reverseRecOn with
  | nil => exact absurd rfl present
  | append_singleton front c ih =>
    obtain ⟨small, shown⟩ := digitChar_digitValue (digits c (by simp))
    have last : Nat.toDigits 10 (digitValue c) = [c] := by
      rw [Nat.toDigits_of_lt_base small, shown]
    rw [decimalValue_append_digit]
    by_cases single : front = []
    · subst single
      simpa [decimal, decimalValue] using last
    · have first : front.head? ≠ some '0' := by
        intro zero
        have alone := leading (by rw [List.head?_append, zero]; rfl)
        have short := congrArg List.length alone
        simp [single] at short
      have before : decimal (decimalValue front) = front :=
        ih single (fun d member => digits d (List.mem_append_left _ member))
          fun zero => absurd zero first
      have positive : 0 < decimalValue front := by
        refine Nat.pos_of_ne_zero fun zero => first ?_
        rw [← before, zero]
        rfl
      rw [decimal, ← Nat.toDigits_append_toDigits (by decide) positive small, last, ← decimal,
        before]

theorem isDigit_of_mem_decimalPadded (width n : Nat) :
    ∀ c ∈ decimalPadded width n, isDigit c = true := by
  intro c member
  rcases List.mem_append.mp member with zero | digit
  · rw [List.eq_of_mem_replicate zero]
    rfl
  · exact isDigit_of_mem_decimal digit

theorem decimalValue_decimalPadded (width n : Nat) : decimalValue (decimalPadded width n) = n := by
  rw [decimalPadded, decimalValue_eq, Nat.ofDigitChars_append, Nat.ofDigitChars_replicate_zero,
    Nat.mul_zero, ← decimalValue_eq, decimalValue_decimal]

theorem length_decimalPadded {width n : Nat} (positive : 0 < width) (fits : n < Nat.pow 10 width) :
    (decimalPadded width n).length = width := by
  have short : (decimal n).length ≤ width :=
    (Nat.length_toDigits_le_iff (by decide) positive).mpr fits
  rw [decimalPadded, List.length_append, List.length_replicate]
  omega

theorem le_length_decimalPadded (width n : Nat) : width ≤ (decimalPadded width n).length := by
  rw [decimalPadded, List.length_append, List.length_replicate]
  omega

theorem decimalPadded_ne_nil (width n : Nat) : decimalPadded width n ≠ [] := by
  simp [decimalPadded, decimal_ne_nil]

theorem decimalValue_append (front back : List Char) :
    decimalValue (front ++ back) = 10 ^ back.length * decimalValue front + decimalValue back := by
  rw [decimalValue_eq, Nat.ofDigitChars_append, Nat.ofDigitChars_eq_ofDigitChars_zero]
  rfl

theorem decimalValue_inj {as bs : List Char} (digits : ∀ c ∈ as, isDigit c = true)
    (others : ∀ c ∈ bs, isDigit c = true) (length : as.length = bs.length)
    (value : decimalValue as = decimalValue bs) : as = bs := by
  induction as using List.reverseRecOn generalizing bs with
  | nil => exact (List.length_eq_zero_iff.mp length.symm).symm
  | append_singleton as a ih =>
    rcases List.eq_nil_or_concat bs with rfl | ⟨bs, b, rfl⟩
    · simp at length
    · obtain ⟨small, shown⟩ := digitChar_digitValue (digits a (by simp))
      obtain ⟨small', shown'⟩ := digitChar_digitValue (others b (by simp))
      rw [List.concat_eq_append] at others length value ⊢
      rw [decimalValue_append_digit, decimalValue_append_digit] at value
      have front : as = bs := by
        refine ih (fun c member => digits c (List.mem_append_left _ member))
          (fun c member => others c (List.mem_append_left _ member)) (by simpa using length) ?_
        omega
      have last : digitValue a = digitValue b := by omega
      rw [front, ← shown, ← shown', last]

theorem decimalPadded_decimalValue {ds : List Char} (present : ds ≠ [])
    (digits : ∀ c ∈ ds, isDigit c = true) : decimalPadded ds.length (decimalValue ds) = ds := by
  refine decimalValue_inj (isDigit_of_mem_decimalPadded _ _) digits ?_
    (decimalValue_decimalPadded _ _)
  exact length_decimalPadded (List.length_pos_iff.mpr present) (decimalValue_lt digits)

theorem isBlank_of_isDigit {c : Char} (digit : isDigit c = true) : isBlank c = false := by
  obtain ⟨low, high⟩ := toNat_of_isDigit digit
  simp only [isBlank, Bool.or_eq_false_iff, Bool.and_eq_false_iff, decide_eq_false_iff_not,
    beq_eq_false_iff_ne]
  omega

theorem skipBlanks_digits {ds rest : List Char} (present : ds ≠ [])
    (digits : ∀ c ∈ ds, isDigit c = true) : skipBlanks (ds ++ rest) = ds ++ rest := by
  obtain ⟨d, ds, rfl⟩ := List.exists_cons_of_ne_nil present
  have first := isBlank_of_isDigit (digits d List.mem_cons_self)
  simp [skipBlanks, first]

theorem takeWhile_digits {ds rest : List Char} (digits : ∀ c ∈ ds, isDigit c = true)
    (stops : ∀ c ∈ rest.head?, isDigit c = false) : (ds ++ rest).takeWhile isDigit = ds := by
  rw [List.takeWhile_append_of_pos digits]
  cases rest with
  | nil => simp
  | cons c rest => simp [stops c rfl]

theorem dropWhile_digits {ds rest : List Char} (digits : ∀ c ∈ ds, isDigit c = true)
    (stops : ∀ c ∈ rest.head?, isDigit c = false) : (ds ++ rest).dropWhile isDigit = rest := by
  rw [List.dropWhile_append_of_pos digits]
  cases rest with
  | nil => rfl
  | cons c rest => simp [stops c rfl]

end GatewayLink.Text
