import GatewayLink.Proofs.Body.Separation

/-! Data rates and modulations.
`Told` lists the pairs of members that tell a rate. All others are refused: an unknown modulation before the
rate is looked at, then a rate that is missing or does not fit. No rate is cut down to fit. -/

namespace GatewayLink.DataRate

open Json Text

/-- One or more digits, of which the first may be zeros. -/
def Digits (ds : List Char) (n : Nat) : Prop :=
  ds ≠ [] ∧ (∀ c ∈ ds, c.isDigit = true) ∧ Nat.ofDigitChars 10 ds 0 = n

/-- A text of digits, with at most one plus sign in front. -/
def Numeral (s : String) (n : Nat) : Prop :=
  Digits s.toList n ∨ ∃ ds, s.toList = '+' :: ds ∧ Digits ds n

/-- The members `modu` and `datr` that tell a rate. -/
inductive Told : Option String → Option Json → DataRate → Prop
  | lora (name : String) : Told (some "LORA") (some (.text name)) (.lora name)
  | number (n : UInt32) : Told (some "FSK") (some (.number (.integer n.toNat))) (.fsk n)
  | numeral {s : String} {n : UInt32} (digits : Numeral s n.toNat) :
    Told (some "FSK") (some (.text s)) (.fsk n)

theorem digits_iff {ds : List Char} {n : UInt32} :
    (if ds ≠ [] ∧ ds.all isDigit ∧ decimalValue ds < 0x100000000 then
      some (UInt32.ofNat (decimalValue ds)) else none) = some n ↔ Digits ds n.toNat := by
  have bound : n.toNat < 0x100000000 := n.toNat_lt
  have all : ds.all isDigit = true ↔ ∀ c ∈ ds, c.isDigit = true := by
    simp only [List.all_eq_true, isDigit_eq]
  rw [Digits, ← decimalValue_eq]
  split_ifs with fits
  · obtain ⟨present, digits, small⟩ := fits
    have word : (UInt32.ofNat (decimalValue ds)).toNat = decimalValue ds :=
      UInt32.toNat_ofNat_of_lt' small
    rw [Option.some.injEq, ← UInt32.toNat_inj, word]
    exact ⟨fun value => ⟨present, all.mp digits, value⟩, fun known => known.2.2⟩
  · simp only [false_iff]
    rintro ⟨present, digits, value⟩
    exact fits ⟨present, all.mpr digits, value ▸ bound⟩

theorem bitRateOfText?_eq_some {s : String} {n : UInt32} :
    bitRateOfText? s = some n ↔ Numeral s n.toNat := by
  unfold bitRateOfText? Numeral
  dsimp only
  rw [digits_iff]
  split
  · next rest plus =>
    rw [plus]
    -- A plus sign is no digit.
    have signed : ¬Digits ('+' :: rest) n.toNat := fun known => by
      cases known.2.1 '+' List.mem_cons_self
    constructor
    · exact fun known => .inr ⟨rest, rfl, known⟩
    · rintro (known | ⟨ds, same, known⟩)
      · exact absurd known signed
      · cases same
        exact known
  · next plain =>
    exact (or_iff_left fun ⟨ds, plus, _⟩ => plain ds plus).symm

theorem ofMembers_of_told {modu : Option String} {datr : Option Json} {rate : DataRate}
    (told : Told modu datr rate) : ofMembers modu datr = .ok rate := by
  cases told with
  | lora name => rfl
  | number n => exact ofMembers_toJson (.fsk n)
  | @numeral s n digits =>
    show ofJson .fsk (.text s) = .ok (.fsk n)
    rw [ofJson, bitRateOfText?_eq_some.mpr digits]

theorem Told.number_eq {modu : Option String} {x : Number} {n : UInt32}
    (told : Told modu (some (.number x)) (.fsk n)) : x = .integer n.toNat := by
  cases told
  rfl

theorem told_of_ofJson {modulation : Modulation} {v : Json} {rate : DataRate}
    (read : ofJson modulation v = .ok rate) : Told (some modulation.text) (some v) rate := by
  unfold ofJson at read
  split at read
  · next name =>
    cases read
    exact .lora name
  · split at read
    · next n word =>
      cases read
      rw [word?_eq_some.mp word]
      exact .number n
    · cases read
  · split at read
    · next n digits =>
      cases read
      exact .numeral (bitRateOfText?_eq_some.mp digits)
    · cases read
  · cases read

theorem ofMembers_cases (modu : Option String) (datr : Option Json) :
    ((∀ modulation : Modulation, modu ≠ some modulation.text) ∧
        ofMembers modu datr = .error (.modulation (modu.getD ""))) ∨
      (∃ modulation : Modulation, modu = some modulation.text) ∧
        ((∃ rate, ofMembers modu datr = .ok rate ∧ Told modu datr rate) ∨
          ∃ cause, ofMembers modu datr = .error (.body cause)) := by
  cases named : modulationOf modu with
  | error fault =>
    obtain ⟨unknown, rfl⟩ := modulationOf_eq_error.mp named
    refine .inl ⟨unknown, ?_⟩
    simp only [ofMembers, named]
  | ok modulation =>
    cases modulationOf_eq_ok.mp named
    refine .inr ⟨⟨modulation, rfl⟩, ?_⟩
    cases datr with
    | none => exact .inr ⟨.noDataRate, by simp only [ofMembers, named]⟩
    | some v =>
      have value : ofMembers (some modulation.text) (some v) = ofJson modulation v := by
        simp only [ofMembers, named]
      rw [value]
      cases read : ofJson modulation v with
      | ok rate => exact .inl ⟨rate, rfl, told_of_ofJson read⟩
      | error fault =>
        obtain ⟨cause, rfl⟩ := ofJson_eq_error read
        exact .inr ⟨cause, rfl⟩

theorem ofMembers_eq_ok {modu : Option String} {datr : Option Json} {rate : DataRate} :
    ofMembers modu datr = .ok rate ↔ Told modu datr rate := by
  refine ⟨fun read => ?_, ofMembers_of_told⟩
  rcases ofMembers_cases modu datr with ⟨-, failed⟩ | ⟨-, ⟨rate', read', told⟩ | ⟨cause, failed⟩⟩
  · cases read.symm.trans failed
  · cases read.symm.trans read'
    exact told
  · cases read.symm.trans failed

theorem forall_modulation {modu : Option String} :
    (∀ modulation : Modulation, modu ≠ some modulation.text) ↔
      modu ≠ some "LORA" ∧ modu ≠ some "FSK" := by
  constructor
  · exact fun unknown => ⟨unknown .lora, unknown .fsk⟩
  · rintro ⟨lora, fsk⟩ (_ | _)
    · exact lora
    · exact fsk

theorem ofMembers_eq_error_body {modu : Option String} {datr : Option Json} :
    (∃ cause, ofMembers modu datr = .error (.body cause)) ↔
      (modu = some "LORA" ∨ modu = some "FSK") ∧ ∀ rate, ¬Told modu datr rate := by
  have known : (∃ modulation : Modulation, modu = some modulation.text) ↔
      modu = some "LORA" ∨ modu = some "FSK" := by
    rw [← not_iff_not, not_exists, not_or]
    exact forall_modulation
  rw [← known]
  rcases ofMembers_cases modu datr with ⟨unknown, failed⟩ | ⟨modulation, ⟨rate, read, told⟩ | failed⟩
  · simp [failed, unknown]
  · refine iff_of_false ?_ fun refused => refused.2 rate told
    rintro ⟨cause, failed⟩
    cases read.symm.trans failed
  · refine iff_of_true failed ⟨modulation, fun rate told => ?_⟩
    obtain ⟨cause, failed⟩ := failed
    cases failed.symm.trans (ofMembers_of_told told)

theorem ofMembers_eq_error_modulation {modu : Option String} {datr : Option Json} {name : String} :
    ofMembers modu datr = .error (.modulation name) ↔
      (modu ≠ some "LORA" ∧ modu ≠ some "FSK") ∧ name = modu.getD "" := by
  rw [← forall_modulation]
  rcases ofMembers_cases modu datr with
    ⟨unknown, failed⟩ | ⟨⟨modulation, known⟩, ⟨rate, read, -⟩ | ⟨cause, failed⟩⟩
  · simp [failed, unknown, eq_comm]
  · rw [read]
    exact iff_of_false nofun fun refused => refused.1 modulation known
  · rw [failed]
    exact iff_of_false nofun fun refused => refused.1 modulation known

/-- A number literal tells a rate only if it is the plain decimal form of the rate: no fraction, no exponent, no
sign and no zero in front. -/
theorem ofMembers_literal_iff {word : List Char} {n : UInt32} :
    (∃ x, Lexeme.ofWord? word = some (.number x) ∧
      ofMembers (some "FSK") (some (.number x)) = .ok (.fsk n)) ↔ word = decimal n.toNat := by
  have bound := n.toNat_lt
  have fits : n.toNat < wordLimit := by
    simp only [wordLimit]
    omega
  rw [← ofWord?_eq_natural fits]
  constructor
  · rintro ⟨x, read, rate⟩
    rwa [(ofMembers_eq_ok.mp rate).number_eq] at read
  · exact fun read => ⟨_, read, ofMembers_of_told (.number n)⟩

/-- The modulation and the rate of a body never disagree. An unknown modulation is reported whatever the rate is.
With a known one, the members tell a rate or the body is at fault, and no rate is told but its own. A number
tells a rate only in its plain decimal form. Numbers and texts of one value tell the same rate, and what is
written for a rate tells it. -/
theorem ofMembers_agrees (modu : Option String) (datr : Option Json) :
    (∀ name, ofMembers modu datr = .error (.modulation name) ↔
      (modu ≠ some "LORA" ∧ modu ≠ some "FSK") ∧ name = modu.getD "") ∧
    (∀ rate, ofMembers modu datr = .ok rate ↔ Told modu datr rate) ∧
    ((∃ cause, ofMembers modu datr = .error (.body cause)) ↔
      (modu = some "LORA" ∨ modu = some "FSK") ∧ ∀ rate, ¬Told modu datr rate) ∧
    (∀ (word : List Char) (n : UInt32), (∃ x, Lexeme.ofWord? word = some (.number x) ∧
      ofMembers (some "FSK") (some (.number x)) = .ok (.fsk n)) ↔ word = decimal n.toNat) ∧
    (∀ (s : String) (n : UInt32), Numeral s n.toNat →
      ofMembers (some "FSK") (some (.text s)) =
        ofMembers (some "FSK") (some (.number (.integer n.toNat)))) ∧
    ∀ rate : DataRate, ofMembers (some rate.modulation.text) (some rate.toJson) = .ok rate := by
  refine ⟨fun name => ofMembers_eq_error_modulation, fun rate => ofMembers_eq_ok,
    ofMembers_eq_error_body, fun word n => ofMembers_literal_iff, fun s n digits => ?_,
    ofMembers_toJson⟩
  calc ofMembers (some "FSK") (some (.text s))
    _ = .ok (.fsk n) := ofMembers_of_told (.numeral digits)
    _ = _ := (ofMembers_of_told (.number n)).symm

theorem ofMembers_agrees_padded :
    Numeral "+050000" 50000 ∧
      ofMembers (some "FSK") (some (.text "+050000")) =
        ofMembers (some "FSK") (some (.number (.integer 50000))) := by
  have digits : Numeral "+050000" 50000 :=
    .inr ⟨"050000".toList, rfl, by decide, List.all_eq_true.mp rfl, rfl⟩
  exact ⟨digits, (ofMembers_agrees none none).2.2.2.2.1 "+050000" 50000 digits⟩

end GatewayLink.DataRate
