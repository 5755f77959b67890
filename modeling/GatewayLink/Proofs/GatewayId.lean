import Mathlib.Algebra.Ring.Nat
import Mathlib.Data.List.Induction
import GatewayLink.GatewayId

/-! The order of gateway identifiers.
The octets of an identifier and the characters of its text are digits of one number, in base 256 and in
base 16, the most significant one first. In any base, digits of a fixed width are ordered lexicographically as
the numbers are; so identifiers, their numbers and their texts all have the same order. -/

namespace GatewayLink

namespace Text

section Positional

variable {α : Type}

def positional (base : Nat) (digit : Nat → α) : (width : Nat) → (n : Nat) → List α
  | 0, _ => []
  | width + 1, n => positional base digit width (n / base) ++ [digit n]

@[simp] theorem length_positional (base : Nat) (digit : Nat → α) (width n : Nat) :
    (positional base digit width n).length = width := by
  induction width generalizing n with
  | zero => rfl
  | succ width ih => simp [positional, ih]

theorem positional_hexDigit (width n : Nat) : positional 16 hexDigit width n = hexPadded width n := by
  induction width generalizing n with
  | zero => rfl
  | succ width ih => rw [positional, hexPadded, ih]

theorem compare_append [Ord α] {as bs : List α} (length : as.length = bs.length) (xs ys : List α) :
    compare (as ++ xs) (bs ++ ys) = (compare as bs).then (compare xs ys) := by
  induction as generalizing bs with
  | nil =>
    obtain rfl := List.length_eq_zero_iff.mp length.symm
    rfl
  | cons a as ih =>
    obtain ⟨b, bs, rfl⟩ := List.exists_cons_of_length_eq_add_one length.symm
    rw [List.cons_append, List.cons_append, List.compare_cons_cons, List.compare_cons_cons,
      ih (Nat.succ_inj.mp length), Ordering.then_assoc]

theorem compare_quotient_remainder {base r s : Nat} (small : r < base) (small' : s < base)
    (p q : Nat) : (compare p q).then (compare r s) = compare (base * p + r) (base * q + s) := by
  rcases Nat.lt_trichotomy p q with less | rfl | more
  · have apart : base * p + base ≤ base * q := Nat.mul_le_mul_left base less
    rw [Nat.compare_eq_lt.mpr less, Ordering.lt_then, Nat.compare_eq_lt.mpr (by omega)]
  · have self : compare p p = .eq := Nat.compare_eq_eq.mpr rfl
    rw [self, Ordering.eq_then]
    rcases Nat.lt_trichotomy r s with less | rfl | more
    · rw [Nat.compare_eq_lt.mpr less, Nat.compare_eq_lt.mpr (by omega)]
    · rw [Nat.compare_eq_eq.mpr rfl, Nat.compare_eq_eq.mpr rfl]
    · rw [Nat.compare_eq_gt.mpr more, Nat.compare_eq_gt.mpr (by omega)]
  · have apart : base * q + base ≤ base * p := Nat.mul_le_mul_left base more
    rw [Nat.compare_eq_gt.mpr more, Ordering.gt_then, Nat.compare_eq_gt.mpr (by omega)]

/-- Digits that compare as remainders do, in lists of a fixed width, compare lexicographically as the numbers
do. -/
theorem compare_positional [Ord α] {base : Nat} (positive : 0 < base) {digit : Nat → α}
    (order : ∀ m n, compare (digit m) (digit n) = compare (m % base) (n % base)) (width m n : Nat) :
    compare (positional base digit width m) (positional base digit width n) =
      compare (m % base ^ width) (n % base ^ width) := by
  induction width generalizing m n with
  | zero => simp [positional, Nat.mod_one]
  | succ width ih =>
    have last : compare [digit m] [digit n] = compare (m % base) (n % base) := by
      rw [List.compare_cons_cons, order, List.compare_nil_nil, Ordering.then_eq]
    have split (k : Nat) : k % base ^ (width + 1) = base * (k / base % base ^ width) + k % base := by
      rw [Nat.pow_succ, Nat.mul_comm, Nat.mod_mul, Nat.add_comm]
    rw [positional, positional, compare_append (by simp), ih, last, split, split,
      compare_quotient_remainder (Nat.mod_lt m positive) (Nat.mod_lt n positive)]

end Positional

theorem compare_hexDigit (m n : Nat) : compare (hexDigit m) (hexDigit n) = compare (m % 16) (n % 16) := by
  have table : ∀ a < 16, ∀ b < 16, compare (Nat.digitChar a) (Nat.digitChar b) = compare a b := by
    decide
  exact table _ (Nat.mod_lt m (by decide)) _ (Nat.mod_lt n (by decide))

theorem hexDigit_mem (n : Nat) : hexDigit n ∈ "0123456789abcdef".toList := by
  have table : ∀ a < 16, Nat.digitChar a ∈ "0123456789abcdef".toList := by decide
  exact table _ (Nat.mod_lt n (by decide))

theorem mem_hexPadded {width n : Nat} {c : Char} (member : c ∈ hexPadded width n) :
    c ∈ "0123456789abcdef".toList := by
  induction width generalizing n with
  | zero => cases member
  | succ width ih =>
    rcases List.mem_append.mp member with front | last
    · exact ih front
    · rw [List.mem_singleton.mp last]
      exact hexDigit_mem n

theorem flatMap_hexOctet (width n : Nat) :
    (positional 256 UInt8.ofNat width n).flatMap hexOctet = hexPadded (2 * width) n := by
  induction width generalizing n with
  | zero => rfl
  | succ width ih =>
    have octet : hexOctet (UInt8.ofNat n) = [hexDigit (n / 16), hexDigit n] := by
      have high : n % 256 / 16 % 16 = n / 16 % 16 := by omega
      have low : n % 256 % 16 = n % 16 := by omega
      simp [hexOctet, hexPadded, hexDigit, high, low]
    have double : 2 * (width + 1) = 2 * width + 1 + 1 := by omega
    rw [positional, List.flatMap_append, ih, double, hexPadded, hexPadded, Nat.div_div_eq_div_mul]
    simp [octet]

theorem compare_eq_lt_iff {as bs : List Char} : compare as bs = .lt ↔ as < bs := by
  induction as generalizing bs with
  | nil => cases bs <;> simp
  | cons a as ih =>
    cases bs with
    | nil => simp
    | cons b bs =>
      have heads : compare a b = .lt ↔ a < b := compareOfLessAndEq_eq_lt
      rw [List.compare_cons_cons, Ordering.then_eq_lt, ih, List.cons_lt_cons_iff,
        Std.LawfulEqOrd.compare_eq_iff_eq, heads]

end Text

namespace GatewayId

open Text

theorem octets_ofNumber (n : UInt64) :
    (ofNumber n).octets.toList = positional 256 UInt8.ofNat 8 n.toNat := by
  simp [ofNumber, positional, Vector.toList_ofFn, List.ofFn_succ, Nat.div_div_eq_div_mul]

theorem text_ofNumber (n : UInt64) : (ofNumber n).text = String.ofList (hexPadded 16 n.toNat) := by
  rw [text, hexOctets, octets_ofNumber, flatMap_hexOctet]

theorem compare_ofNat (m n : Nat) :
    compare (UInt8.ofNat m) (UInt8.ofNat n) = compare (m % 256) (n % 256) := by
  simp only [compare, compareOfLessAndEq, UInt8.lt_iff_toNat_lt, ← UInt8.toNat_inj,
    UInt8.toNat_ofNat']

theorem compare_ofNumber (a b : UInt64) : compare (ofNumber a) (ofNumber b) = compare a.toNat b.toNat := by
  have octets : compare (ofNumber a) (ofNumber b) =
      compare (ofNumber a).octets.toList (ofNumber b).octets.toList :=
    Vector.compare_eq_compare_toList
  have whole (a : UInt64) : a.toNat % 256 ^ 8 = a.toNat := Nat.mod_eq_of_lt a.toNat_lt
  rw [octets, octets_ofNumber, octets_ofNumber, compare_positional (by decide) compare_ofNat, whole, whole]

theorem compare_text (a b : UInt64) :
    compare (ofNumber a).text.toList (ofNumber b).text.toList = compare a.toNat b.toNat := by
  have whole (a : UInt64) : a.toNat % 16 ^ 16 = a.toNat := Nat.mod_eq_of_lt a.toNat_lt
  rw [text_ofNumber, text_ofNumber, String.toList_ofList, String.toList_ofList, ← positional_hexDigit,
    ← positional_hexDigit, compare_positional (by decide) compare_hexDigit, whole, whole]

theorem positional_octets (bs : List UInt8) :
    positional 256 UInt8.ofNat bs.length (bs.foldl (fun n b => 256 * n + b.toNat) 0) = bs := by
  induction bs using List.reverseRecOn with
  | nil => rfl
  | append_singleton bs b ih =>
    have front (n : Nat) : (256 * n + b.toNat) / 256 = n := by
      have := b.toNat_lt
      omega
    rw [List.foldl_append, List.length_append, List.length_singleton, positional]
    simp [front, ih]

theorem exists_ofNumber (id : GatewayId) : ∃ n, ofNumber n = id := by
  let total := id.octets.toList.foldl (fun n b => 256 * n + b.toNat) 0
  refine ⟨UInt64.ofNat total, ?_⟩
  -- The number of eight octets fits a word, but a number with more digits would have the same last eight.
  have last : compare (positional 256 UInt8.ofNat 8 (UInt64.ofNat total).toNat)
      (positional 256 UInt8.ofNat 8 total) = .eq := by
    rw [compare_positional (by decide) compare_ofNat, Nat.compare_eq_eq, UInt64.toNat_ofNat']
    exact Nat.mod_mod total _
  have octets : (ofNumber (UInt64.ofNat total)).octets.toList = id.octets.toList := by
    have digits := positional_octets id.octets.toList
    rw [length_octets] at digits
    rw [octets_ofNumber, Std.LawfulEqOrd.eq_of_compare last, digits]
  cases id
  exact congrArg GatewayId.mk (Vector.toList_inj.mp octets)

/-- Identifiers are in the order of their numbers, and so are their texts: sixteen hexadecimal digits in lower
case, different for different identifiers and lexicographically in the same order. -/
theorem numeric_order :
    (∀ a b : UInt64, ofNumber a < ofNumber b ↔ a < b) ∧
      (∀ id, ∃! n, ofNumber n = id) ∧
      ∀ x y : GatewayId, x.text.length = 16 ∧ (∀ c ∈ x.text.toList, c ∈ "0123456789abcdef".toList) ∧
        (x.text = y.text ↔ x = y) ∧ (x.text < y.text ↔ x < y) := by
  have order (a b : UInt64) : ofNumber a < ofNumber b ↔ a < b := by
    rw [UInt64.lt_iff_toNat_lt, ← Nat.compare_eq_lt, ← compare_ofNumber]
    rfl
  have injective (a b : UInt64) (same : ofNumber a = ofNumber b) : a = b := by
    rw [← UInt64.toNat_inj, ← Nat.compare_eq_eq, ← compare_ofNumber, same]
    exact Std.ReflOrd.compare_self
  refine ⟨order, fun id => ?_, fun x y => ?_⟩
  · obtain ⟨n, rfl⟩ := exists_ofNumber id
    exact ⟨n, rfl, fun m same => injective m n same⟩
  · obtain ⟨a, rfl⟩ := exists_ofNumber x
    obtain ⟨b, rfl⟩ := exists_ofNumber y
    refine ⟨?_, ?_, ?_, ?_⟩
    · rw [text_ofNumber, String.length_ofList, length_hexPadded]
    · intro c member
      rw [text_ofNumber, String.toList_ofList] at member
      exact mem_hexPadded member
    · constructor
      · intro same
        have equal := compare_text a b
        rw [same, Std.ReflOrd.compare_self] at equal
        rw [UInt64.toNat_inj.mp (Nat.compare_eq_eq.mp equal.symm)]
      · exact congrArg text
    · rw [order, UInt64.lt_iff_toNat_lt, ← Nat.compare_eq_lt, ← compare_text, compare_eq_lt_iff]
      rfl

end GatewayId

end GatewayLink
