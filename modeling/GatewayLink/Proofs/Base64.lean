import Mathlib.Data.List.Basic
import GatewayLink.Base64

/-! Base64 text by its groups. Whole groups of four symbols give three octets each; the last group, with its
padding, is read on its own. -/

namespace GatewayLink.Base64

def octetOf (c : Char) : UInt8 := UInt8.ofNat c.toNat

theorem valueOf?_symbolOf : ∀ v < 64, valueOf? (octetOf (symbolOf v)) = some v := by decide

theorem symbolOf_ne_padding : ∀ v < 64, octetOf (symbolOf v) ≠ padding := by decide

theorem octetOf_pad : octetOf '=' = padding := by decide

theorem symbol_isAscii : ∀ v < 64, (symbolOf v).toNat < 128 := by decide

theorem encode_isAscii (octets : List UInt8) : ∀ c ∈ encode octets, c.toNat < 128 := by
  induction octets using encode.induct with
  | case1 => exact nofun
  | case2 a =>
    have ha := a.toNat_lt
    simp only [encode, List.forall_mem_cons]
    exact ⟨symbol_isAscii _ (by omega), symbol_isAscii _ (by omega), by decide, by decide, nofun⟩
  | case3 a b =>
    have ha := a.toNat_lt
    have hb := b.toNat_lt
    simp only [encode, List.forall_mem_cons]
    exact ⟨symbol_isAscii _ (by omega), symbol_isAscii _ (by omega), symbol_isAscii _ (by omega),
      by decide, nofun⟩
  | case4 a b c rest ih =>
    have ha := a.toNat_lt
    have hb := b.toNat_lt
    have hc := c.toNat_lt
    simp only [encode, List.forall_mem_cons]
    exact ⟨symbol_isAscii _ (by omega), symbol_isAscii _ (by omega), symbol_isAscii _ (by omega),
      symbol_isAscii _ (by omega), ih⟩

theorem ofNat_toNat_of_eq {n : Nat} {a : UInt8} (same : n % 256 = a.toNat) : UInt8.ofNat n = a := by
  apply UInt8.toNat_inj.mp
  simpa using same

theorem encode_append {front : List UInt8} (whole : front.length % 3 = 0) (last : List UInt8) :
    encode (front ++ last) = encode front ++ encode last := by
  induction front using encode.induct with
  | case1 => rfl
  | case2 a => cases whole
  | case3 a b => cases whole
  | case4 a b c rest ih =>
    have rest_whole : rest.length % 3 = 0 := by
      simp only [List.length_cons] at whole
      omega
    simp only [List.cons_append, encode, ih rest_whole]

theorem length_encode_whole {front : List UInt8} (whole : front.length % 3 = 0) :
    (encode front).length = front.length / 3 * 4 := by
  induction front using encode.induct with
  | case1 => rfl
  | case2 a => cases whole
  | case3 a b => cases whole
  | case4 a b c rest ih =>
    simp only [List.length_cons] at whole ⊢
    have rest_length := ih (by omega)
    simp only [encode, List.length_cons]
    omega

theorem values_encode {front : List UInt8} (whole : front.length % 3 = 0) (position : Nat) :
    ∃ vs, values position ((encode front).map octetOf) = .ok vs ∧ fullGroups vs = front := by
  induction front using encode.induct generalizing position with
  | case1 => exact ⟨[], rfl, rfl⟩
  | case2 a => cases whole
  | case3 a b => cases whole
  | case4 a b c rest ih =>
    have rest_whole : rest.length % 3 = 0 := by
      simp only [List.length_cons] at whole
      omega
    obtain ⟨vs, read, groups⟩ := ih rest_whole (position + 1 + 1 + 1 + 1)
    have ha := a.toNat_lt
    have hb := b.toNat_lt
    have hc := c.toNat_lt
    obtain ⟨n, number⟩ : ∃ n, n = a.toNat * 65536 + b.toNat * 256 + c.toNat := ⟨_, rfl⟩
    refine ⟨n / 262144 :: n / 4096 % 64 :: n / 64 % 64 :: n % 64 :: vs, ?_, ?_⟩
    · simp only [encode, ← number, List.map_cons, values, read, Except.map,
        valueOf?_symbolOf (n / 262144) (by omega), valueOf?_symbolOf (n / 4096 % 64) (by omega),
        valueOf?_symbolOf (n / 64 % 64) (by omega), valueOf?_symbolOf (n % 64) (by omega)]
    · simp only [fullGroups, groups]
      have total : n / 262144 * 262144 + n / 4096 % 64 * 4096 + n / 64 % 64 * 64 + n % 64 = n := by
        omega
      rw [total, ofNat_toNat_of_eq (show n / 65536 % 256 = a.toNat by omega),
        ofNat_toNat_of_eq (show n / 256 % 256 = b.toNat by omega),
        ofNat_toNat_of_eq (show n % 256 = c.toNat by omega)]

theorem lastOctets_encode {last : List UInt8} (present : last ≠ []) (short : last.length ≤ 3)
    (start : Nat) :
    (encode last).length = 4 ∧
      ∃ vs, lastValues start 0 ((encode last).map octetOf) = .ok vs ∧
        lastOctets start ((encode last).map octetOf) vs = .ok last := by
  match last, present, short with
  | [a], _, _ =>
    have ha := a.toNat_lt
    obtain ⟨n, number⟩ : ∃ n, n = a.toNat * 16 := ⟨_, rfl⟩
    refine ⟨rfl, [n / 64, n % 64], ?_, ?_⟩
    · simp [encode, lastValues, octetOf_pad, onlyPadding, ← number, Except.map,
        symbolOf_ne_padding (n / 64) (by omega), symbolOf_ne_padding (n % 64) (by omega),
        valueOf?_symbolOf (n / 64) (by omega), valueOf?_symbolOf (n % 64) (by omega)]
    · have zero : n % 64 % 16 = 0 := by omega
      simp only [lastOctets, zero, ne_eq, not_true_eq_false, if_false]
      rw [ofNat_toNat_of_eq (show (n / 64 * 64 + n % 64) / 16 % 256 = a.toNat by omega)]
  | [a, b], _, _ =>
    have ha := a.toNat_lt
    have hb := b.toNat_lt
    obtain ⟨n, number⟩ : ∃ n, n = (a.toNat * 256 + b.toNat) * 4 := ⟨_, rfl⟩
    refine ⟨rfl, [n / 4096, n / 64 % 64, n % 64], ?_, ?_⟩
    · simp [encode, lastValues, octetOf_pad, onlyPadding, ← number, Except.map,
        symbolOf_ne_padding (n / 4096) (by omega), symbolOf_ne_padding (n / 64 % 64) (by omega),
        symbolOf_ne_padding (n % 64) (by omega), valueOf?_symbolOf (n / 4096) (by omega),
        valueOf?_symbolOf (n / 64 % 64) (by omega), valueOf?_symbolOf (n % 64) (by omega)]
    · have zero : n % 64 % 4 = 0 := by omega
      have total : n / 4096 * 4096 + n / 64 % 64 * 64 + n % 64 = n := by omega
      simp only [lastOctets, zero, ne_eq, not_true_eq_false, if_false, total]
      rw [ofNat_toNat_of_eq (show n / 1024 % 256 = a.toNat by omega),
        ofNat_toNat_of_eq (show n / 4 % 256 = b.toNat by omega)]
  | [a, b, c], _, _ =>
    have ha := a.toNat_lt
    have hb := b.toNat_lt
    have hc := c.toNat_lt
    obtain ⟨n, number⟩ : ∃ n, n = a.toNat * 65536 + b.toNat * 256 + c.toNat := ⟨_, rfl⟩
    refine ⟨rfl, [n / 262144, n / 4096 % 64, n / 64 % 64, n % 64], ?_, ?_⟩
    · simp [encode, lastValues, ← number, Except.map,
        symbolOf_ne_padding (n / 262144) (by omega), symbolOf_ne_padding (n / 4096 % 64) (by omega),
        symbolOf_ne_padding (n / 64 % 64) (by omega), symbolOf_ne_padding (n % 64) (by omega),
        valueOf?_symbolOf (n / 262144) (by omega), valueOf?_symbolOf (n / 4096 % 64) (by omega),
        valueOf?_symbolOf (n / 64 % 64) (by omega), valueOf?_symbolOf (n % 64) (by omega)]
    · have total : n / 262144 * 262144 + n / 4096 % 64 * 4096 + n / 64 % 64 * 64 + n % 64 = n := by
        omega
      simp only [lastOctets, fullGroups, total]
      rw [ofNat_toNat_of_eq (show n / 65536 % 256 = a.toNat by omega),
        ofNat_toNat_of_eq (show n / 256 % 256 = b.toNat by omega),
        ofNat_toNat_of_eq (show n % 256 = c.toNat by omega)]

theorem exists_lastOctets {octets : List UInt8} (nonempty : octets ≠ []) :
    ∃ front last, octets = front ++ last ∧ front.length % 3 = 0 ∧ last ≠ [] ∧ last.length ≤ 3 := by
  have length := List.length_pos_of_ne_nil nonempty
  refine ⟨octets.take ((octets.length - 1) / 3 * 3), octets.drop ((octets.length - 1) / 3 * 3),
    (List.take_append_drop _ octets).symm, ?_, ?_, ?_⟩
  · rw [List.length_take]
    omega
  · rw [← List.length_pos_iff, List.length_drop]
    omega
  · rw [List.length_drop]
    omega

/-- A text is read by its whole groups and its last group. No text ends one symbol past a whole group. -/
theorem decode_append {front group tail : List UInt8} {vs ls : List Nat}
    (whole : front.length % 4 = 0) (present : 2 ≤ group.length) (short : group.length ≤ 4)
    (readFront : values 0 front = .ok vs) (readLast : lastValues front.length 0 group = .ok ls)
    (octets : lastOctets front.length group ls = .ok tail) :
    decode (front ++ group) = .ok (fullGroups vs ++ tail) := by
  have length : (front ++ group).length = front.length + group.length := List.length_append
  have nonempty : front ++ group ≠ [] := by
    rw [← List.length_pos_iff, length]
    omega
  have cut : (front.length + group.length - 1) / 4 * 4 = front.length := by omega
  have steady : checkStray (front ++ group) = .ok () := by
    have even : (front.length + group.length) % 4 ≠ 1 := by omega
    simp only [checkStray, length, even, false_and, if_false]
    split <;> rfl
  rw [decode, if_neg nonempty]
  simp only [steady, length, cut, List.take_left, List.drop_left, readFront, readLast, octets, bind,
    Except.bind]
  rfl

end GatewayLink.Base64
