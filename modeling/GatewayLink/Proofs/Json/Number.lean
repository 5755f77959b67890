import GatewayLink.Proofs.Binary64.Shortest
import GatewayLink.Proofs.Json.Scan

/-! The texts of numbers.
A number with a value is written in digits, signs, points and exponent marks, so as one bare word that is
no literal name; one without is written as `null`. Integers that fit a 64-bit word are read back. A float
survives being written if reading its digits gives its bits again. -/

namespace GatewayLink.Json

open Text

def Numeric (c : Char) : Prop := isDigit c = true ∨ c ∈ ['-', '+', '.', 'e']

def NumericText (cs : List Char) : Prop := cs ≠ [] ∧ ∀ c ∈ cs, Numeric c

theorem Numeric.ofNat {c : Char} (numeric : Numeric c) :
    ∃ n, c = Char.ofNat n ∧ (48 ≤ n ∧ n ≤ 57 ∨ n = 43 ∨ n = 45 ∨ n = 46 ∨ n = 101) := by
  rcases numeric with digit | mark
  · exact ⟨c.toNat, (Char.ofNat_toNat c).symm, .inl (toNat_of_isDigit digit)⟩
  · simp only [List.mem_cons, List.not_mem_nil, or_false] at mark
    rcases mark with rfl | rfl | rfl | rfl
    · exact ⟨45, rfl, by decide⟩
    · exact ⟨43, rfl, by decide⟩
    · exact ⟨46, rfl, by decide⟩
    · exact ⟨101, rfl, by decide⟩

theorem Numeric.plain {c : Char} (numeric : Numeric c) :
    Scanner.endsWord c = false ∧ c ≠ 'n' ∧ c ≠ 't' ∧ c ≠ 'f' := by
  obtain ⟨n, rfl, ⟨low, high⟩ | rfl | rfl | rfl | rfl⟩ := numeric.ofNat
  · interval_cases n <;> decide
  all_goals decide

namespace NumericText

variable {cs : List Char}

theorem isWord (numeric : NumericText cs) : IsWord cs :=
  ⟨numeric.1, fun c member => (numeric.2 c member).plain.1⟩

theorem cons {c : Char} (first : Numeric c) (rest : ∀ c ∈ cs, Numeric c) : NumericText (c :: cs) := by
  refine ⟨List.cons_ne_nil c cs, fun c' member => ?_⟩
  rcases List.mem_cons.mp member with rfl | member
  · exact first
  · exact rest c' member

theorem decimal (n : Nat) : NumericText (Text.decimal n) :=
  ⟨decimal_ne_nil n, fun _ member => .inl (isDigit_of_mem_decimal member)⟩

theorem ofWord? (numeric : NumericText cs) :
    Lexeme.ofWord? cs = (Literal.ofWord? cs).bind fun l => l.number?.map .number := by
  obtain ⟨c, rest, rfl⟩ := List.exists_cons_of_ne_nil numeric.1
  obtain ⟨-, notNull, notTrue, notFalse⟩ := (numeric.2 c List.mem_cons_self).plain
  rw [Lexeme.ofWord?, if_neg, if_neg, if_neg]
  · exact fun same => notFalse (List.head_eq_of_cons_eq same)
  · exact fun same => notTrue (List.head_eq_of_cons_eq same)
  · exact fun same => notNull (List.head_eq_of_cons_eq same)

end NumericText

theorem numericText_integerText (i : Int) : NumericText (Number.integerText i) := by
  unfold Number.integerText
  split
  · exact .cons (.inr (by decide)) (NumericText.decimal i.natAbs).2
  · exact .decimal i.natAbs

theorem isDigit_of_mem_parts {d : Decimal} (digits : ∀ c ∈ d.digits, isDigit c = true) {c : Char}
    (member : c ∈ d.parts.1 ∨ c ∈ d.parts.2) : isDigit c = true := by
  have zeros {n : Nat} (member : c ∈ List.replicate n '0') : isDigit c = true := by
    rw [List.eq_of_mem_replicate member]
    rfl
  unfold Decimal.parts at member
  split at member
  · rcases member with member | member
    · rcases List.mem_append.mp member with taken | added
      · exact digits c (List.mem_of_mem_take taken)
      · exact zeros added
    · exact digits c (List.mem_of_mem_drop member)
  · rcases member with member | member
    · rw [List.mem_singleton.mp member]
      rfl
    · rcases List.mem_append.mp member with added | given
      · exact zeros added
      · exact digits c given

theorem numericText_decimalText {d : Decimal} (present : d.digits ≠ [])
    (digits : ∀ c ∈ d.digits, isDigit c = true) : NumericText (Number.decimalText d) := by
  unfold Number.decimalText
  split
  · refine ⟨by simp, fun c member => ?_⟩
    rcases List.mem_append.mp member with whole | behind
    · exact .inl (isDigit_of_mem_parts digits (.inl whole))
    · rcases List.mem_cons.mp behind with rfl | fraction
      · exact .inr (by decide)
      · split at fraction
        · rw [List.mem_singleton.mp fraction]
          exact .inl rfl
        · exact .inl (isDigit_of_mem_parts digits (.inr fraction))
  · have power : NumericText
        ('e' :: (if d.exponent < 0 then '-' else '+') :: decimal d.exponent.natAbs) := by
      refine .cons (.inr (by decide)) (NumericText.cons ?_ (NumericText.decimal _).2).2
      split <;> exact .inr (by decide)
    dsimp only
    split
    · next absent => exact absurd absent present
    · next single only =>
      exact .cons (.inl (digits single (by rw [only]; simp))) power.2
    · next first rest _ text =>
      rw [text] at digits
      refine .cons (.inl (digits first List.mem_cons_self)) fun c member => ?_
      rcases List.mem_cons.mp member with rfl | member
      · exact .inr (by decide)
      · rcases List.mem_append.mp member with digit | member
        · exact .inl (digits c (List.mem_cons_of_mem first digit))
        · exact power.2 c member

theorem numericText_floatText {x : Binary64} (finite : x.isFinite = true) :
    NumericText (Number.floatText x) := by
  have zero : NumericText "0.0".toList := by
    refine .cons (.inl rfl) fun c member => ?_
    rcases List.mem_cons.mp member with rfl | member
    · exact .inr (by decide)
    · rw [List.mem_singleton.mp member]
      exact .inl rfl
  have magnitude : NumericText (if x.isZero then "0.0".toList else Number.decimalText x.shortest) := by
    split
    · exact zero
    · next nonzero =>
      have shortest := Binary64.digits_shortest (Bool.eq_false_iff.mpr nonzero)
      exact numericText_decimalText shortest.1 shortest.2
  have valued : ¬ (!x.isFinite) = true := by simp [finite]
  rw [Number.floatText, if_neg valued]
  dsimp only
  split
  · exact .cons (.inr (by decide)) magnitude.2
  · exact magnitude

theorem isWord_text (n : Number) : IsWord n.text := by
  cases n with
  | integer i => exact (numericText_integerText i).isWord
  | float x =>
    cases finite : x.isFinite with
    | true => exact (numericText_floatText finite).isWord
    | false =>
      have null : Number.floatText x = "null".toList := by simp [Number.floatText, finite]
      rw [Number.text, null]
      decide

theorem le_foldl_digits (value : Nat) (ds : List Char) :
    value ≤ ds.foldl (fun n c => 10 * n + digitValue c) value := by
  induction ds generalizing value with
  | nil => exact Nat.le_refl value
  | cons c ds ih =>
    have later := ih (10 * value + digitValue c)
    rw [List.foldl_cons]
    omega

theorem takeDigits_fits {value : Nat} {ds : List Char}
    (fits : ds.foldl (fun n c => 10 * n + digitValue c) value < wordLimit) :
    takeDigits value ds = (ds.foldl (fun n c => 10 * n + digitValue c) value, []) := by
  induction ds generalizing value with
  | nil => rfl
  | cons c ds ih =>
    rw [List.foldl_cons] at fits ⊢
    have next := Nat.lt_of_le_of_lt (le_foldl_digits (10 * value + digitValue c) ds) fits
    rw [takeDigits]
    simp only [next, if_true]
    exact ih fits

theorem takeDigits_decimal {n : Nat} (fits : n < wordLimit) : takeDigits 0 (decimal n) = (n, []) := by
  have value : (decimal n).foldl (fun n c => 10 * n + digitValue c) 0 = n := decimalValue_decimal n
  rw [takeDigits_fits (by rw [value]; exact fits), value]

def signed (negative : Bool) (unsigned : List Char) : List Char :=
  if negative then '-' :: unsigned else unsigned

/-- Digits that may stand before the point: at least one, and no zero in front of others. -/
structure WholePart (ds : List Char) : Prop where
  present : ds ≠ []
  digits : ∀ c ∈ ds, isDigit c = true
  leading : ds.head? = some '0' → ds = ['0']

namespace WholePart

variable {whole : List Char}

theorem decimal (n : Nat) : WholePart (decimal n) where
  present := decimal_ne_nil n
  digits _ := isDigit_of_mem_decimal
  leading zero := by
    rw [head?_decimal_eq_zero zero]
    rfl

theorem canonical (plain : WholePart whole) :
    ¬ (whole = [] ∨ whole.head? = some '0' ∧ whole ≠ ['0']) := by
  rintro (empty | ⟨zero, more⟩)
  · exact plain.present empty
  · exact more (plain.leading zero)

theorem unsigned (plain : WholePart whole) (rest rest' : List Char) :
    whole ++ rest ≠ '-' :: rest' := by
  intro minus
  obtain ⟨d, ds, rfl⟩ := List.exists_cons_of_ne_nil plain.present
  have digit := plain.digits d List.mem_cons_self
  rw [List.head_eq_of_cons_eq minus] at digit
  cases digit

variable {power : List Char} {e : Option Int}

theorem ofWord?_whole (plain : WholePart whole) (negative : Bool)
    (stops : ∀ c ∈ power.head?, isDigit c = false ∧ c ≠ '.')
    (read : Literal.exponentOf? power = some e) :
    Literal.ofWord? (signed negative (whole ++ power)) = some ⟨negative, whole, none, e⟩ := by
  have ends (c : Char) (member : c ∈ power.head?) : isDigit c = false := (stops c member).1
  have taken := takeWhile_digits plain.digits ends
  have left := dropWhile_digits plain.digits ends
  have pointless (rest : List Char) : power ≠ '.' :: rest := by
    rintro rfl
    exact (stops '.' rfl).2 rfl
  have unsigned := plain.unsigned power
  cases negative <;>
    simp [Literal.ofWord?, signed, taken, left, plain.canonical, read]

theorem ofWord?_fraction (plain : WholePart whole) (negative : Bool) {ds : List Char}
    (present : ds ≠ []) (digits : ∀ c ∈ ds, isDigit c = true)
    (stops : ∀ c ∈ power.head?, isDigit c = false) (read : Literal.exponentOf? power = some e) :
    Literal.ofWord? (signed negative (whole ++ '.' :: (ds ++ power))) =
      some ⟨negative, whole, some ds, e⟩ := by
  have behind := takeWhile_digits digits stops
  have last := dropWhile_digits digits stops
  have point : ∀ c ∈ ('.' :: (ds ++ power)).head?, isDigit c = false := by
    rintro _ ⟨⟩
    rfl
  have taken := takeWhile_digits plain.digits point
  have left := dropWhile_digits plain.digits point
  have unsigned := plain.unsigned ('.' :: (ds ++ power))
  cases negative <;>
    simp [Literal.ofWord?, signed, taken, left, plain.canonical, behind, last, present, read]

end WholePart

theorem integerText_eq (i : Int) :
    Number.integerText i = signed (decide (i < 0)) (decimal i.natAbs) := by
  simp [Number.integerText, signed]

theorem ofWord?_integerText {i : Int} (low : -0x8000000000000000 ≤ i)
    (high : i < 0x10000000000000000) :
    Lexeme.ofWord? (Number.integerText i) = some (.number (.integer i)) := by
  have fits : i.natAbs < wordLimit := by
    simp only [wordLimit]
    omega
  have taken := takeDigits_decimal fits
  have read : Literal.ofWord? (Number.integerText i) =
      some ⟨decide (i < 0), decimal i.natAbs, none, none⟩ := by
    have ends : ∀ c ∈ ([] : List Char).head?, isDigit c = false ∧ c ≠ '.' := by simp
    have whole := (WholePart.decimal i.natAbs).ofWord?_whole (decide (i < 0)) ends rfl
    rwa [List.append_nil, ← integerText_eq] at whole
  rw [(numericText_integerText i).ofWord?, read, Option.bind_some, Literal.number?, taken]
  by_cases negative : i < 0
  · have word : 0 < i.natAbs ∧ i.natAbs ≤ 0x8000000000000000 := by omega
    have value : -(i.natAbs : Int) = i := by omega
    simp only [Literal.isPlain, Option.isNone_none, Bool.and_self, negative, decide_true, if_pos word,
      value, Option.map_some]
  · have value : (i.natAbs : Int) = i := by omega
    simp only [Literal.isPlain, Option.isNone_none, Bool.and_self, negative, decide_false, value,
      Option.map_some]

theorem value_of_takeDigits {value word : Nat} {ds : List Char}
    (taken : takeDigits value ds = (word, [])) :
    ds.foldl (fun n c => 10 * n + digitValue c) value = word := by
  induction ds generalizing value with
  | nil => exact congrArg Prod.fst taken
  | cons c ds ih =>
    rw [takeDigits] at taken
    split at taken
    · exact ih taken
    · cases taken

theorem eq_nil_of_exponentOf? {cs : List Char} (read : Literal.exponentOf? cs = some none) :
    cs = [] := by
  unfold Literal.exponentOf? at read
  split at read
  · rfl
  · dsimp only at read
    split_ifs at read
    cases read

theorem whole_of_ofWord? {word whole : List Char} {negative : Bool}
    (read : Literal.ofWord? word = some ⟨negative, whole, none, none⟩) :
    WholePart whole ∧ word = signed negative whole := by
  unfold Literal.ofWord? at read
  split at read
  next minus unsigned parted =>
  have parts : word = signed minus unsigned := by
    split at parted <;> cases parted <;> rfl
  dsimp only at read
  split at read
  · cases read
  · next canonical =>
    push Not at canonical
    split at read
    · split_ifs at read
      obtain ⟨e, -, made⟩ := Option.map_eq_some_iff.mp read
      cases made
    · obtain ⟨e, exponent, made⟩ := Option.map_eq_some_iff.mp read
      cases made
      have all := List.takeWhile_append_dropWhile (p := isDigit) (l := unsigned)
      rw [eq_nil_of_exponentOf? exponent, List.append_nil] at all
      rw [all] at canonical ⊢
      refine ⟨⟨canonical.1, fun c member => ?_, canonical.2⟩, parts⟩
      rw [← all] at member
      exact List.mem_takeWhile_imp member

theorem digits_of_number? {l : Literal} {n : Nat} (read : l.number? = some (.integer n)) :
    l = ⟨false, l.whole, none, none⟩ ∧ decimalValue l.whole = n := by
  obtain ⟨negative, whole, fraction, exponent⟩ := l
  rw [Literal.number?] at read
  split at read
  · next word plain positive taken =>
    simp only [Literal.isPlain, Bool.and_eq_true, Option.isNone_iff_eq_none] at plain positive
    obtain ⟨rfl, rfl⟩ := plain
    cases positive
    cases read
    exact ⟨rfl, value_of_takeDigits taken⟩
  · split at read
    · next fits =>
      have same : -(_ : Int) = n := Number.integer.inj (Option.some.inj read)
      omega
    · cases read
  · obtain ⟨x, -, made⟩ := Option.map_eq_some_iff.mp read
    cases made

theorem ofWord?_eq_natural {word : List Char} {n : Nat} (fits : n < wordLimit) :
    Lexeme.ofWord? word = some (.number (.integer n)) ↔ word = decimal n := by
  constructor
  · intro read
    rw [Lexeme.ofWord?] at read
    split_ifs at read
    any_goals cases read
    obtain ⟨l, literal, number⟩ := Option.bind_eq_some_iff.mp read
    obtain ⟨x, number, same⟩ := Option.map_eq_some_iff.mp number
    cases same
    obtain ⟨plain, value⟩ := digits_of_number? number
    rw [plain] at literal
    obtain ⟨whole, rfl⟩ := whole_of_ofWord? literal
    rw [← value, decimal_decimalValue whole.present whole.digits whole.leading]
    rfl
  · rintro rfl
    have shown : Number.integerText n = decimal n := by
      rw [integerText_eq, decide_eq_false (by omega)]
      rfl
    have limit : n < 0x10000000000000000 := fits
    rw [← shown]
    exact ofWord?_integerText (by omega) (by omega)

end GatewayLink.Json

namespace GatewayLink

open Json

/-- The number is finite, and reading the shortest text printed for it gives it back. -/
def Binary64.Survives (x : Binary64) : Prop :=
  x.isFinite = true ∧
    ((Literal.ofWord? (Number.floatText x)).bind Literal.number?).map Number.toBinary64 = some x

instance (x : Binary64) : Decidable x.Survives := inferInstanceAs (Decidable (_ ∧ _))

end GatewayLink
