import GatewayLink.Proofs.Base64

/-! What base64 text is read.
The reader takes the text that is written for octets, from which any part of the padding at the end may be
missing, and nothing else. Each of its stages is told by what it takes: the values of symbols, the values of
the last group with the padding behind them, and the octets of that group. -/

namespace GatewayLink.Base64

def symbolOctet (v : Nat) : UInt8 := octetOf (symbolOf v)

/-- The text is what is written for the octets, but for padding that is missing at its end. -/
def Abridges (text octets : List UInt8) : Prop :=
  ∃ missing, text ++ List.replicate missing padding = (encode octets).map octetOf

theorem map_octetOf_symbols (vs : List Nat) :
    (vs.map symbolOf).map octetOf = vs.map symbolOctet := List.map_map

theorem map_eq_ok {α β : Type} {x : Except Fault α} {f : α → β} {b : β} :
    x.map f = .ok b ↔ ∃ a, x = .ok a ∧ f a = b := by
  cases x <;> simp [Except.map]

theorem bind_eq_ok {α β : Type} {x : Except Fault α} {f : α → Except Fault β} {b : β} :
    (x >>= f) = .ok b ↔ ∃ a, x = .ok a ∧ f a = .ok b := by
  cases x <;> simp [bind, Except.bind]

theorem valueOf?_eq_some {octet : UInt8} {v : Nat} :
    valueOf? octet = some v ↔ v < 64 ∧ octet = symbolOctet v := by
  constructor
  · intro value
    have table : ∀ n < 256, ((valueOf? (UInt8.ofNat n)).all fun v =>
        decide (v < 64) && (UInt8.ofNat n == symbolOctet v)) = true := by decide +kernel
    have known := table octet.toNat octet.toNat_lt
    rw [UInt8.ofNat_toNat, value] at known
    simpa using known
  · rintro ⟨small, rfl⟩
    exact valueOf?_symbolOf v small

theorem values_cons_eq_ok {position : Nat} {octet : UInt8} {rest : List UInt8} {vs : List Nat} :
    values position (octet :: rest) = .ok vs ↔
      ∃ v ws, vs = v :: ws ∧ valueOf? octet = some v ∧ values (position + 1) rest = .ok ws := by
  rw [values]
  cases valueOf? octet with
  | none => simp
  | some v =>
    simp only [map_eq_ok, Option.some.injEq]
    constructor
    · rintro ⟨ws, later, rfl⟩
      exact ⟨v, ws, rfl, rfl, later⟩
    · rintro ⟨_, ws, rfl, rfl, later⟩
      exact ⟨ws, later, rfl⟩

theorem values_eq_ok {position : Nat} {text : List UInt8} {vs : List Nat} :
    values position text = .ok vs ↔ text = vs.map symbolOctet ∧ ∀ v ∈ vs, v < 64 := by
  induction text generalizing position vs with
  | nil => cases vs <;> simp [values]
  | cons octet rest ih =>
    rw [values_cons_eq_ok]
    constructor
    · rintro ⟨v, ws, rfl, value, later⟩
      obtain ⟨small, rfl⟩ := valueOf?_eq_some.mp value
      obtain ⟨rfl, others⟩ := ih.mp later
      exact ⟨rfl, List.forall_mem_cons.mpr ⟨small, others⟩⟩
    · rintro ⟨same, smalls⟩
      obtain ⟨v, ws, rfl, rfl, rfl⟩ := List.map_eq_cons_iff.mp same.symm
      obtain ⟨small, others⟩ := List.forall_mem_cons.mp smalls
      exact ⟨v, ws, rfl, valueOf?_eq_some.mpr ⟨small, rfl⟩, ih.mpr ⟨rfl, others⟩⟩

theorem onlyPadding_eq_ok {first : Nat} {rest : List UInt8} :
    onlyPadding first rest = .ok () ↔ rest = List.replicate rest.length padding := by
  rw [onlyPadding, List.eq_replicate_iff]
  by_cases only : rest.all (· == padding) = true
  · rw [if_pos only]
    simpa using only
  · rw [if_neg only]
    simpa using only

theorem lastValues_cons_eq_ok {start index : Nat} {octet : UInt8} {rest : List UInt8}
    {vs : List Nat} :
    lastValues start index (octet :: rest) = .ok vs ↔
      (vs = [] ∧ 2 ≤ index ∧ octet :: rest = List.replicate (rest.length + 1) padding) ∨
        ∃ v ws, vs = v :: ws ∧ valueOf? octet = some v ∧
          lastValues start (index + 1) rest = .ok ws := by
  have unvalued : valueOf? padding = none := rfl
  rw [lastValues]
  by_cases pads : octet = padding
  · subst pads
    rw [if_pos rfl, List.replicate_succ, List.cons.injEq, unvalued]
    by_cases early : index < 2
    · rw [if_pos early]
      constructor
      · intro read
        cases read
      · rintro (⟨-, late, -⟩ | ⟨_, _, -, value, -⟩)
        · omega
        · cases value
    · rw [if_neg early, map_eq_ok]
      constructor
      · rintro ⟨_, only, rfl⟩
        exact .inl ⟨rfl, Nat.le_of_not_lt early, rfl, onlyPadding_eq_ok.mp only⟩
      · rintro (⟨rfl, -, -, only⟩ | ⟨_, _, -, value, -⟩)
        · exact ⟨(), onlyPadding_eq_ok.mpr only, rfl⟩
        · cases value
  · have other : octet :: rest ≠ List.replicate (rest.length + 1) padding := fun same =>
      pads (List.cons.inj same).1
    rw [if_neg pads]
    simp only [other, and_false, false_or]
    cases valueOf? octet with
    | none => simp
    | some v =>
      simp only [map_eq_ok, Option.some.injEq]
      constructor
      · rintro ⟨ws, later, rfl⟩
        exact ⟨v, ws, rfl, rfl, later⟩
      · rintro ⟨_, ws, rfl, rfl, later⟩
        exact ⟨ws, later, rfl⟩

theorem lastValues_eq_ok {start index : Nat} {group : List UInt8} {vs : List Nat} :
    lastValues start index group = .ok vs ↔ (∀ v ∈ vs, v < 64) ∧
      ∃ pads, group = vs.map symbolOctet ++ List.replicate pads padding ∧
        (pads = 0 ∨ 2 ≤ index + vs.length) := by
  induction group generalizing index vs with
  | nil =>
    cases vs with
    | nil => exact iff_of_true rfl ⟨nofun, 0, rfl, .inl rfl⟩
    | cons v ws => simp [lastValues]
  | cons octet rest ih =>
    rw [lastValues_cons_eq_ok]
    constructor
    · rintro (⟨rfl, late, only⟩ | ⟨v, ws, rfl, value, later⟩)
      · exact ⟨nofun, rest.length + 1, only, .inr late⟩
      · obtain ⟨small, rfl⟩ := valueOf?_eq_some.mp value
        obtain ⟨others, pads, rfl, placed⟩ := ih.mp later
        refine ⟨List.forall_mem_cons.mpr ⟨small, others⟩, pads, rfl, ?_⟩
        rw [List.length_cons]
        omega
    · rintro ⟨smalls, pads, same, placed⟩
      cases vs with
      | nil =>
        have length := congrArg List.length same
        simp only [List.length_cons, List.map_nil, List.nil_append, List.length_replicate] at length
        refine .inl ⟨rfl, ?_, by rw [length]; exact same⟩
        simpa [← length] using placed
      | cons v ws =>
        rw [List.map_cons, List.cons_append, List.cons.injEq] at same
        obtain ⟨rfl, rfl⟩ := same
        obtain ⟨small, others⟩ := List.forall_mem_cons.mp smalls
        refine .inr ⟨v, ws, rfl, valueOf?_eq_some.mpr ⟨small, rfl⟩, ih.mpr ⟨others, pads, rfl, ?_⟩⟩
        rw [List.length_cons] at placed
        omega

theorem encode_fullGroups {vs : List Nat} (small : ∀ v ∈ vs, v < 64) (whole : vs.length % 4 = 0) :
    (fullGroups vs).length % 3 = 0 ∧ encode (fullGroups vs) = vs.map symbolOf := by
  induction vs using fullGroups.induct with
  | case1 a b c d rest ih =>
    simp only [List.forall_mem_cons] at small
    obtain ⟨ha, hb, hc, hd, others⟩ := small
    obtain ⟨whole', written⟩ := ih others (by simp only [List.length_cons] at whole; omega)
    obtain ⟨n, number⟩ : ∃ n, n = a * 262144 + b * 4096 + c * 64 + d := ⟨_, rfl⟩
    have first : (UInt8.ofNat (n / 65536)).toNat = n / 65536 := by
      rw [UInt8.toNat_ofNat']
      omega
    have second : (UInt8.ofNat (n / 256)).toNat = n / 256 % 256 := UInt8.toNat_ofNat'
    have third : (UInt8.ofNat n).toNat = n % 256 := UInt8.toNat_ofNat'
    have total : n / 65536 * 65536 + n / 256 % 256 * 256 + n % 256 = n := by omega
    simp only [fullGroups, ← number, encode, first, second, third, total, written, List.map_cons,
      List.length_cons]
    refine ⟨by omega, ?_⟩
    rw [show n / 262144 = a by omega, show n / 4096 % 64 = b by omega, show n / 64 % 64 = c by omega,
      show n % 64 = d by omega]
  | case2 vs short =>
    -- Fewer than four values are a whole number of groups only if there are none.
    rcases vs with _ | ⟨a, _ | ⟨b, _ | ⟨c, _ | ⟨d, rest⟩⟩⟩⟩
    · exact ⟨rfl, rfl⟩
    · cases whole
    · cases whole
    · cases whole
    · exact absurd rfl (short a b c d rest)

theorem encode_lastOctets {start : Nat} {symbols tail : List UInt8} {vs : List Nat}
    (small : ∀ v ∈ vs, v < 64) (read : lastOctets start symbols vs = .ok tail) :
    tail ≠ [] ∧ encode tail = vs.map symbolOf ++ List.replicate (4 - vs.length) '=' := by
  unfold lastOctets at read
  split at read
  · next a b c d =>
    cases read
    have written := (encode_fullGroups small (Nat.mod_self 4)).2
    exact ⟨List.cons_ne_nil _ _, by simpa using written⟩
  · next a b c =>
    simp only [List.forall_mem_cons] at small
    split at read
    · cases read
    · next zero =>
      cases read
      obtain ⟨n, number⟩ : ∃ n, n = a * 4096 + b * 64 + c := ⟨_, rfl⟩
      have first : (UInt8.ofNat (n / 1024)).toNat = n / 1024 := by
        rw [UInt8.toNat_ofNat']
        omega
      have second : (UInt8.ofNat (n / 4)).toNat = n / 4 % 256 := UInt8.toNat_ofNat'
      have total : (n / 1024 * 256 + n / 4 % 256) * 4 = n := by omega
      refine ⟨List.cons_ne_nil _ _, ?_⟩
      simp only [← number, encode, first, second, total]
      rw [show n / 4096 = a by omega, show n / 64 % 64 = b by omega, show n % 64 = c by omega]
      rfl
  · next a b =>
    simp only [List.forall_mem_cons] at small
    split at read
    · cases read
    · next zero =>
      cases read
      obtain ⟨n, number⟩ : ∃ n, n = a * 64 + b := ⟨_, rfl⟩
      have first : (UInt8.ofNat (n / 16)).toNat = n / 16 := by
        rw [UInt8.toNat_ofNat']
        omega
      have total : n / 16 * 16 = n := by omega
      refine ⟨List.cons_ne_nil _ _, ?_⟩
      simp only [← number, encode, first, total]
      rw [show n / 64 = a by omega, show n % 64 = b by omega]
      rfl
  · cases read

theorem eq_append_of_padded {text front : List UInt8} {missing pads : Nat}
    (unpadded : padding ∉ front)
    (same : text ++ List.replicate missing padding = front ++ List.replicate pads padding) :
    missing ≤ pads ∧ text = front ++ List.replicate (pads - missing) padding := by
  induction missing generalizing pads with
  | zero => exact ⟨Nat.zero_le pads, by simpa using same⟩
  | succ missing ih =>
    cases pads with
    | zero =>
      have there : padding ∈ front := by
        rw [List.replicate_zero, List.append_nil] at same
        rw [← same]
        simp
      exact absurd there unpadded
    | succ pads =>
      rw [List.replicate_succ', List.replicate_succ', ← List.append_assoc, ← List.append_assoc] at same
      obtain ⟨less, rest⟩ := ih (List.append_cancel_right same)
      exact ⟨Nat.succ_le_succ less, by rw [rest, Nat.add_sub_add_right]⟩

theorem padding_not_mem_symbols {vs : List Nat} (small : ∀ v ∈ vs, v < 64) :
    padding ∉ vs.map symbolOctet := by
  rintro pads
  obtain ⟨v, member, same⟩ := List.mem_map.mp pads
  exact symbolOf_ne_padding v (small v member) same

theorem lastGroup_cut {text : List UInt8} (nonempty : text ≠ []) {start : Nat}
    (cut : start = (text.length - 1) / 4 * 4) :
    start % 4 = 0 ∧ start < text.length ∧ text.length ≤ start + 4 := by
  have length := List.length_pos_of_ne_nil nonempty
  omega

theorem abridges_of_decode {text octets : List UInt8} (read : decode text = .ok octets) :
    Abridges text octets := by
  unfold decode at read
  split at read
  · next empty =>
    cases read
    exact ⟨0, by rw [empty]; rfl⟩
  · next nonempty =>
    obtain ⟨start, cut⟩ : ∃ start, start = (text.length - 1) / 4 * 4 := ⟨_, rfl⟩
    obtain ⟨begins, inside, ends⟩ := lastGroup_cut nonempty cut
    simp only [← cut, bind_eq_ok] at read
    obtain ⟨-, -, vs, front, ls, last, tail, group, octets⟩ := read
    cases octets
    obtain ⟨front, small⟩ := values_eq_ok.mp front
    obtain ⟨smallLast, pads, last, -⟩ := lastValues_eq_ok.mp last
    obtain ⟨-, writtenLast⟩ := encode_lastOctets smallLast group
    have lengths := congrArg List.length front
    have lengthsLast := congrArg List.length last
    simp only [List.length_take, List.length_drop, List.length_map, List.length_append,
      List.length_replicate] at lengths lengthsLast
    obtain ⟨whole, written⟩ := encode_fullGroups small (by omega)
    have fits : pads + (4 - ls.length - pads) = 4 - ls.length := by omega
    refine ⟨4 - ls.length - pads, ?_⟩
    calc text ++ List.replicate (4 - ls.length - pads) padding
        = vs.map symbolOctet ++ (ls.map symbolOctet ++ List.replicate (4 - ls.length) padding) := by
          rw [← List.take_append_drop start text, front, last, ← fits, List.replicate_add]
          simp only [List.append_assoc, fits]
      _ = (encode (fullGroups vs ++ tail)).map octetOf := by
          rw [encode_append whole, written, writtenLast]
          simp only [List.map_append, map_octetOf_symbols, List.map_replicate, octetOf_pad]

theorem lastOctets_of_symbols {start : Nat} {symbols tail : List UInt8} {vs : List Nat}
    (read : lastOctets start symbols vs = .ok tail) (others : List UInt8) :
    lastOctets start others vs = .ok tail := by
  unfold lastOctets at read ⊢
  split at read
  · exact read
  · split at read
    · cases read
    · next zero => rw [if_neg zero, read]
  · split at read
    · cases read
    · next zero => rw [if_neg zero, read]
  · cases read

theorem decode_of_abridges {text octets : List UInt8} (abridges : Abridges text octets) :
    decode text = .ok octets := by
  obtain ⟨missing, same⟩ := abridges
  by_cases empty : octets = []
  · subst empty
    obtain ⟨rfl, -⟩ := List.append_eq_nil_iff.mp same
    rfl
  · obtain ⟨front, last, rfl, whole, present, short⟩ := exists_lastOctets empty
    obtain ⟨vs, readFront, groups⟩ := values_encode whole 0
    obtain ⟨four, ls, readLast, tail⟩ :=
      lastOctets_encode present short (vs.map symbolOctet).length
    obtain ⟨written, small⟩ := values_eq_ok.mp readFront
    obtain ⟨smallLast, pads, writtenLast, placed⟩ := lastValues_eq_ok.mp readLast
    have length := congrArg List.length written
    have lengthLast := congrArg List.length writtenLast
    simp only [List.length_map, List.length_append, List.length_replicate, four,
      length_encode_whole whole] at length lengthLast
    rw [encode_append whole, List.map_append, written, writtenLast, ← List.append_assoc] at same
    have unpadded : padding ∉ vs.map symbolOctet ++ ls.map symbolOctet := fun pads =>
      (List.mem_append.mp pads).elim (padding_not_mem_symbols small)
        (padding_not_mem_symbols smallLast)
    obtain ⟨less, rfl⟩ := eq_append_of_padded unpadded same
    have readGroup : lastValues (vs.map symbolOctet).length 0
        (ls.map symbolOctet ++ List.replicate (pads - missing) padding) = .ok ls :=
      lastValues_eq_ok.mpr ⟨smallLast, pads - missing, rfl, by omega⟩
    rw [List.append_assoc, ← groups]
    refine decode_append ?_ ?_ ?_ (values_eq_ok.mpr ⟨rfl, small⟩) readGroup
      (lastOctets_of_symbols tail _)
    all_goals simp only [List.length_append, List.length_map, List.length_replicate]
    all_goals omega

/-- A text is read exactly if it is what is written for the octets, but for padding missing at its end. -/
theorem decode_eq_ok_iff {text octets : List UInt8} :
    decode text = .ok octets ↔ Abridges text octets :=
  ⟨abridges_of_decode, decode_of_abridges⟩

theorem decode_encode (octets : List UInt8) :
    decode ((encode octets).map octetOf) = .ok octets :=
  decode_of_abridges ⟨0, List.append_nil _⟩

end GatewayLink.Base64
