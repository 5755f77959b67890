import Mathlib.Data.List.Basic
import GatewayLink.Proofs.Moment.Parts
import GatewayLink.Toml.Quotation
import GatewayLink.Toml.Value

/-! The texts that are TOML words.
`IsInteger`, `IsFloat` and `IsMoment` tell which texts are numbers, dates and times. The readers are tried one after
another; each of these texts is refused by those before its own, and its own takes all of it up to a character
that may follow a value. -/

namespace GatewayLink.Toml

open Text

/-- Digits that may be parted by single underscores, and how they are written. -/
inductive Grouped (isDigit : Char → Bool) : List Char → List Char → Prop
  | single {c : Char} (digit : isDigit c = true) : Grouped isDigit [c] [c]
  | next {c : Char} {ds cs : List Char} (digit : isDigit c = true) (rest : Grouped isDigit ds cs) :
    Grouped isDigit (c :: ds) (c :: cs)
  | parted {c : Char} {ds cs : List Char} (digit : isDigit c = true) (rest : Grouped isDigit ds cs) :
    Grouped isDigit (c :: ds) (c :: '_' :: cs)

inductive IsDecimal : List Char → List Char → Prop
  | zero : IsDecimal ['0'] ['0']
  | grouped {ds cs : List Char} (digits : Grouped isDigit ds cs) (leading : cs.head? ≠ some '0') :
    IsDecimal ds cs

inductive IsSign : (negative : Bool) → List Char → Prop
  | none : IsSign false []
  | plus : IsSign false ['+']
  | minus : IsSign true ['-']

def signed (negative : Bool) (n : Nat) : Int := if negative then -n else n

inductive IsBase : (base : Nat) → (letter : Char) → Prop
  | hexadecimal : IsBase 16 'x'
  | octal : IsBase 8 'o'
  | binary : IsBase 2 'b'

def isDigitIn (base : Nat) (c : Char) : Bool := (hexDigit? c).any (· < base)

def valueIn (base : Nat) (ds : List Char) : Nat :=
  ds.foldl (fun n c => base * n + (hexDigit? c).getD 0) 0

inductive IsInteger : Int → List Char → Prop
  | decimal {negative : Bool} {s ds cs : List Char} (sign : IsSign negative s)
    (digits : IsDecimal ds cs) : IsInteger (signed negative (decimalValue ds)) (s ++ cs)
  | based {base : Nat} {letter : Char} {ds cs : List Char} (isBase : IsBase base letter)
    (digits : Grouped (isDigitIn base) ds cs) : IsInteger (valueIn base ds) ('0' :: letter :: cs)

inductive IsFraction : List Char → List Char → Prop
  | none : IsFraction [] []
  | digits {ds cs : List Char} (digits : Grouped isDigit ds cs) : IsFraction ds ('.' :: cs)

inductive IsExponent : Int → List Char → Prop
  | none : IsExponent 0 []
  | digits {negative : Bool} {e : Char} {s ds cs : List Char} (letter : e = 'e' ∨ e = 'E')
    (sign : IsSign negative s) (digits : Grouped isDigit ds cs) :
    IsExponent (signed negative (decimalValue ds)) (e :: (s ++ cs))

inductive IsFloat : Binary64 → List Char → Prop
  | digits {negative : Bool} {s whole w ds f x : List Char} {e : Int} (sign : IsSign negative s)
    (digits : IsDecimal whole w) (fraction : IsFraction ds f) (exponent : IsExponent e x)
    (marked : f ++ x ≠ [])
    (finite : nearestFloat negative (decimalValue (whole ++ ds)) (e - ds.length) ≠ positiveInfinity) :
    IsFloat (nearestFloat negative (decimalValue (whole ++ ds)) (e - ds.length))
      (s ++ (w ++ (f ++ x)))
  | infinity {negative : Bool} {s : List Char} (sign : IsSign negative s) :
    IsFloat (.ofMagnitudeBits negative Binary64.infinityBits) (s ++ ['i', 'n', 'f'])
  | nan {negative : Bool} {s : List Char} (sign : IsSign negative s) :
    IsFloat (.ofMagnitudeBits negative (Binary64.infinityBits + Binary64.hiddenBit / 2))
      (s ++ ['n', 'a', 'n'])

structure IsDay (d : Date) : Prop where
  date : d.isValid = true
  year : 0 ≤ d.year ∧ d.year ≤ 9999

structure IsTime (c : Moment.Clock) (fraction : List Char) : Prop where
  clock : c.hour ≤ 23 ∧ c.minute ≤ 59 ∧ c.second ≤ 60
  digits : ∀ c ∈ fraction, isDigit c = true

def timeText (c : Moment.Clock) (fraction : List Char) : List Char :=
  Moment.clockText c ++ Moment.pointed fraction

/-- The offset behind a time of day; only a hyphen is a minus sign here. -/
def IsZone : Moment.Zone → Prop
  | .minus _ _ => False
  | zone => zone.InRange

inductive IsMoment : List Char → Prop
  | day {d : Date} (day : IsDay d) : IsMoment (Moment.dateText d)
  | time {c : Moment.Clock} {fraction : List Char} (time : IsTime c fraction) : IsMoment (timeText c fraction)
  | plain {d : Date} {c : Moment.Clock} {fraction : List Char} (separator : Moment.Separator) (day : IsDay d)
    (time : IsTime c fraction) :
    IsMoment (Moment.dateText d ++ separator.mark :: timeText c fraction)
  | zoned {d : Date} {c : Moment.Clock} {fraction : List Char} {zone : Moment.Zone}
    (separator : Moment.Separator) (day : IsDay d) (time : IsTime c fraction) (isZone : IsZone zone) :
    IsMoment (Moment.dateText d ++ separator.mark :: (timeText c fraction ++ zone.chars))

inductive IsWord : Value → List Char → Prop
  | yes : IsWord (.boolean true) ['t', 'r', 'u', 'e']
  | no : IsWord (.boolean false) ['f', 'a', 'l', 's', 'e']
  | float {x : Binary64} {cs : List Char} (float : IsFloat x cs) : IsWord (.float x) cs
  | moment {cs : List Char} (moment : IsMoment cs) : IsWord (.moment (String.ofList cs)) cs

def delimiters : List Char := ['\n', '\r', '#', ',', ']', '\x7d']

def Ends (rest : List Char) : Prop := ∀ c ∈ (skipWs rest).head?, c ∈ delimiters

theorem Ends.head {rest : List Char} (ends : Ends rest) :
    ∀ c ∈ rest.head?, c ∈ ' ' :: '\t' :: delimiters := by
  cases rest with
  | nil => nofun
  | cons c rest =>
    rintro _ ⟨⟩
    cases blank : isWs c with
    | true =>
      simp only [isWs, Bool.or_eq_true, beq_iff_eq] at blank
      rcases blank with rfl | rfl <;> decide
    | false =>
      have first := ends c (by simp [skipWs, blank])
      exact List.mem_cons_of_mem _ (List.mem_cons_of_mem _ first)

theorem Ends.all {rest : List Char} (ends : Ends rest) {p : Char → Prop} [DecidablePred p]
    (holds : (' ' :: '\t' :: delimiters).all (p ·) = true) : ∀ c ∈ rest.head?, p c :=
  fun c member => of_decide_eq_true (List.all_eq_true.mp holds c (ends.head c member))

section Digits

variable {digit : Char → Bool} {ds cs rest : List Char}

theorem Grouped.head (grouped : Grouped digit ds cs) : ∃ c tail, cs = c :: tail ∧ digit c = true := by
  cases grouped with
  | single known => exact ⟨_, _, rfl, known⟩
  | next known => exact ⟨_, _, rfl, known⟩
  | parted known => exact ⟨_, _, rfl, known⟩

theorem moreDigits_cons {c : Char} (known : digit c = true) (other : c ≠ '_') (cs : List Char) :
    moreDigits digit (c :: cs) = ((c :: (moreDigits digit cs).1), (moreDigits digit cs).2) := by
  rw [moreDigits, if_pos known]
  exact fun _ _ same => absurd same other

theorem moreDigits_parted {c : Char} (known : digit c = true) (other : c ≠ '_') (cs : List Char) :
    moreDigits digit ('_' :: c :: cs) = moreDigits digit (c :: cs) := by
  rw [moreDigits, if_pos known, moreDigits_cons known other]

theorem moreDigits_stops (stops : ∀ c ∈ rest.head?, digit c = false ∧ c ≠ '_') :
    moreDigits digit rest = ([], rest) := by
  cases rest with
  | nil => rfl
  | cons c rest =>
    obtain ⟨unknown, other⟩ := stops c rfl
    rw [moreDigits, if_neg (by simp [unknown])]
    exact fun _ _ same => absurd same other

theorem moreDigits_grouped (under : digit '_' = false) (grouped : Grouped digit ds cs)
    (stops : ∀ c ∈ rest.head?, digit c = false ∧ c ≠ '_') : moreDigits digit (cs ++ rest) = (ds, rest) := by
  have other {c : Char} (known : digit c = true) : c ≠ '_' := by
    rintro rfl
    exact absurd (known.symm.trans under) nofun
  induction grouped with
  | single known =>
    rw [List.singleton_append, moreDigits_cons known (other known), moreDigits_stops stops]
  | next known _ ih => rw [List.cons_append, moreDigits_cons known (other known), ih]
  | parted known rest ih =>
    obtain ⟨d, tail, rfl, next⟩ := rest.head
    rw [List.cons_append, List.cons_append, moreDigits_cons known (other known), List.cons_append,
      moreDigits_parted next (other next), ← List.cons_append, ih]

theorem digitRun?_grouped (under : digit '_' = false) (grouped : Grouped digit ds cs)
    (stops : ∀ c ∈ rest.head?, digit c = false ∧ c ≠ '_') : digitRun? digit (cs ++ rest) = some (ds, rest) := by
  obtain ⟨c, tail, rfl, known⟩ := grouped.head
  have other : c ≠ '_' := by
    rintro rfl
    exact absurd (known.symm.trans under) nofun
  have run : digitRun? digit (c :: (tail ++ rest)) = some (moreDigits digit (c :: (tail ++ rest))) := by
    rw [moreDigits_cons known other, digitRun?, if_pos known]
  rw [List.cons_append, run, ← List.cons_append, moreDigits_grouped under grouped stops]

theorem decimalRun?_decimal (decimal : IsDecimal ds cs)
    (stops : ∀ c ∈ rest.head?, isDigit c = false ∧ c ≠ '_') : decimalRun? (cs ++ rest) = some (ds, rest) := by
  cases decimal with
  | zero => rfl
  | grouped digits leading =>
    rw [decimalRun?, digitRun?_grouped rfl digits stops]
    rintro tail same
    obtain ⟨c, front, rfl, -⟩ := digits.head
    rw [List.cons_append] at same
    exact leading (congrArg some (List.cons.inj same).1)

theorem sign_append {negative : Bool} {s : List Char} (isSign : IsSign negative s)
    (plain : ∀ c ∈ cs.head?, c ≠ '+' ∧ c ≠ '-') : sign (s ++ cs) = (negative, cs) := by
  cases isSign with
  | none =>
    rw [List.nil_append]
    unfold sign
    split
    · exact absurd rfl (plain _ rfl).1
    · exact absurd rfl (plain _ rfl).2
    · rfl
  | plus => rfl
  | minus => rfl

theorem fraction?_eq_none (plain : ∀ c ∈ cs.head?, c ≠ '.') : fraction? cs = none := by
  unfold fraction?
  split
  · exact absurd rfl (plain _ rfl)
  · rfl

theorem exponent?_eq_none (plain : ∀ c ∈ cs.head?, c ≠ 'e' ∧ c ≠ 'E') : exponent? cs = none := by
  cases cs with
  | nil => rfl
  | cons c cs =>
    obtain ⟨lower, upper⟩ := plain c rfl
    exact if_neg (not_or.mpr ⟨lower, upper⟩)

theorem exponent?_exponent {e : Int} {x : List Char} (exponent : IsExponent e x) (nonempty : x ≠ [])
    (stops : ∀ c ∈ rest.head?, isDigit c = false ∧ c ≠ '_') : exponent? (x ++ rest) = some (e, rest) := by
  cases exponent with
  | none => exact absurd rfl nonempty
  | @digits negative letter s ds cs known sign digits =>
    have read : digitRun? isDigit (cs ++ rest) = some (ds, rest) := digitRun?_grouped rfl digits stops
    obtain ⟨c, tail, rfl, digit⟩ := digits.head
    have plain : ∀ d ∈ (c :: tail ++ rest).head?, d ≠ '+' ∧ d ≠ '-' := by
      rintro _ ⟨⟩
      constructor <;> rintro rfl <;> cases digit
    rw [List.cons_append, List.append_assoc, exponent?, if_pos known, sign_append sign plain]
    simp only [read]
    rfl

theorem floatDigits?_digits (negative : Bool) {whole w ds f x : List Char} {e : Int} (digits : IsDecimal whole w)
    (fraction : IsFraction ds f) (exponent : IsExponent e x) (marked : f ++ x ≠ []) (ends : Ends rest) :
    floatDigits? negative (w ++ (f ++ (x ++ rest))) =
      some (nearestFloat negative (decimalValue (whole ++ ds)) (e - ds.length), rest) := by
  have stops : ∀ c ∈ rest.head?, isDigit c = false ∧ c ≠ '_' := ends.all (by decide)
  have power : ∀ c ∈ x.head?, c = 'e' ∨ c = 'E' := by
    cases exponent with
    | none => nofun
    | digits letter =>
      rintro _ ⟨⟩
      exact letter
  have behind (p : Char → Prop) (letters : p 'e' ∧ p 'E') (others : ∀ c ∈ rest.head?, p c) :
      ∀ c ∈ (x ++ rest).head?, p c := by
    cases x with
    | nil => exact others
    | cons c x =>
      rintro _ ⟨⟩
      rcases power c rfl with rfl | rfl
      · exact letters.1
      · exact letters.2
  cases fraction with
  | none =>
    have nonempty : x ≠ [] := marked
    have wholeStops := behind (fun c => isDigit c = false ∧ c ≠ '_') (by decide) stops
    have point := behind (· ≠ '.') (by decide) (ends.all (by decide))
    simp only [List.nil_append, floatDigits?, decimalRun?_decimal digits wholeStops, Option.bind_some,
      fraction?_eq_none point, exponent?_exponent exponent nonempty stops]
    simp
  | @digits ds cs fractionDigits =>
    have fractionStops := behind (fun c => isDigit c = false ∧ c ≠ '_') (by decide) stops
    have read : fraction? ('.' :: (cs ++ (x ++ rest))) = some (ds, x ++ rest) :=
      digitRun?_grouped rfl fractionDigits fractionStops
    have wholeStops : ∀ c ∈ ('.' :: (cs ++ (x ++ rest))).head?, isDigit c = false ∧ c ≠ '_' := by
      rintro _ ⟨⟩
      decide
    have power : (exponent? (x ++ rest)).getD (0, x ++ rest) = (e, rest) := by
      cases exponent with
      | none => rw [List.nil_append, exponent?_eq_none (ends.all (by decide))]; rfl
      | digits letter sign digits =>
        rw [exponent?_exponent (.digits letter sign digits) (List.cons_ne_nil _ _) stops]
        rfl
    simp only [List.cons_append, floatDigits?, decimalRun?_decimal digits wholeStops, Option.bind_some,
      read, power]

end Digits

theorem IsDecimal.head {ds cs : List Char} (decimal : IsDecimal ds cs) :
    ∃ c tail, cs = c :: tail ∧ isDigit c = true := by
  cases decimal with
  | zero => exact ⟨'0', [], rfl, rfl⟩
  | grouped digits => exact digits.head

theorem ne_sign_of_isDigit {c : Char} (digit : isDigit c = true) : c ≠ '+' ∧ c ≠ '-' := by
  constructor <;> rintro rfl <;> cases digit

theorem float?_float {x : Binary64} {cs rest : List Char} (float : IsFloat x cs) (ends : Ends rest) :
    float? (cs ++ rest) = some (x, rest) := by
  cases float with
  | @digits negative s whole w ds f x e isSign digits fraction exponent marked finite =>
    have read := floatDigits?_digits negative digits fraction exponent marked ends
    obtain ⟨c, tail, rfl, digit⟩ := digits.head
    have plain : ∀ d ∈ (c :: tail ++ (f ++ (x ++ rest))).head?, d ≠ '+' ∧ d ≠ '-' := by
      rintro _ ⟨⟩
      exact ne_sign_of_isDigit digit
    have text : s ++ (c :: tail ++ (f ++ x)) ++ rest = s ++ (c :: tail ++ (f ++ (x ++ rest))) := by simp
    rw [text, float?, sign_append isSign plain]
    simp only [read, finite, if_false]
  | infinity isSign =>
    rw [List.append_assoc, float?, sign_append isSign (by simp)]
    rfl
  | nan isSign =>
    rw [List.append_assoc, float?, sign_append isSign (by simp)]
    rfl

theorem twoDigits?_eq_some {cs rest : List Char} {n : Nat} :
    twoDigits? cs = some (n, rest) ↔ n < 100 ∧ cs = decimalPadded 2 n ++ rest := by
  rw [← Moment.readPair_eq_ok]
  unfold twoDigits? Moment.readPair
  split
  · next a b _ => by_cases digits : (isDigit a && isDigit b) = true <;> simp [digits]
  · simp

theorem mark?_eq_some {mark : Char} {cs rest : List Char} :
    mark? mark cs = some rest ↔ cs = mark :: rest := by
  cases cs with
  | nil => simp [mark?]
  | cons c cs =>
    rw [mark?]
    split
    · next same => simp [same]
    · next other => simp [other]

theorem bounded?_eq_some {high : Nat} {cs rest : List Char} (small : high < 100) :
    bounded? high cs = some rest ↔ ∃ n ≤ high, cs = decimalPadded 2 n ++ rest := by
  constructor
  · intro read
    obtain ⟨⟨n, after⟩, digits, read⟩ := Option.bind_eq_some_iff.mp read
    dsimp only at read
    split at read
    · next within =>
      cases read
      exact ⟨n, within, (twoDigits?_eq_some.mp digits).2⟩
    · cases read
  · rintro ⟨n, within, text⟩
    have digits := twoDigits?_eq_some.mpr ⟨Nat.lt_of_le_of_lt within small, text⟩
    simp [bounded?, digits, within]

/-- No digits stand at the front, or something else than a hyphen or a colon behind them. -/
def Unmarked (cs : List Char) : Prop :=
  (∀ c ∈ cs.head?, isDigit c = false) ∨ ∀ c ∈ (cs.dropWhile isDigit).head?, c ≠ '-' ∧ c ≠ ':'

theorem Unmarked.not_marked {n : Nat} {mark : Char} {tail : List Char}
    (unmarked : Unmarked (decimalPadded 2 n ++ tail)) (marked : (tail.dropWhile isDigit).head? = some mark) :
    mark ≠ '-' ∧ mark ≠ ':' := by
  rcases unmarked with undigit | other
  · obtain ⟨d, ds, front⟩ := List.exists_cons_of_ne_nil (decimalPadded_ne_nil 2 n)
    have digit : isDigit d = true := isDigit_of_mem_decimalPadded 2 n d (front ▸ List.mem_cons_self)
    rw [front] at undigit
    exact absurd (digit.symm.trans (undigit d rfl)) nofun
  · rw [List.dropWhile_append_of_pos (isDigit_of_mem_decimalPadded 2 n)] at other
    exact other mark marked

theorem date?_eq_none {cs : List Char} (unmarked : Unmarked cs) : date? cs = none := by
  rw [Option.eq_none_iff_forall_ne_some]
  intro rest read
  obtain ⟨⟨century, after⟩, first, read⟩ := Option.bind_eq_some_iff.mp read
  obtain ⟨⟨year, after'⟩, second, read⟩ := Option.bind_eq_some_iff.mp read
  obtain ⟨after'', hyphen, -⟩ := Option.bind_eq_some_iff.mp read
  obtain ⟨-, rfl⟩ := twoDigits?_eq_some.mp first
  obtain ⟨-, rfl⟩ := twoDigits?_eq_some.mp second
  obtain rfl := mark?_eq_some.mp hyphen
  refine (unmarked.not_marked ?_).1 rfl
  rw [dropWhile_digits (isDigit_of_mem_decimalPadded 2 year) (by rintro _ ⟨⟩; rfl)]
  rfl

theorem time?_eq_none {cs : List Char} (unmarked : Unmarked cs) : time? cs = none := by
  rw [Option.eq_none_iff_forall_ne_some]
  intro rest read
  obtain ⟨after, hour, read⟩ := Option.bind_eq_some_iff.mp read
  obtain ⟨after', colon, -⟩ := Option.bind_eq_some_iff.mp read
  obtain ⟨n, -, rfl⟩ := (bounded?_eq_some (by decide)).mp hour
  obtain rfl := mark?_eq_some.mp colon
  exact (unmarked.not_marked rfl).2 rfl

theorem moment?_eq_none {cs : List Char} (unmarked : Unmarked cs) : moment? cs = none := by
  rw [moment?, date?_eq_none unmarked, time?_eq_none unmarked]
  rfl

theorem moment?_number {negative : Bool} {s ds w rest : List Char} (isSign : IsSign negative s)
    (decimal : IsDecimal ds w) (stops : ∀ c ∈ rest.head?, isDigit c = false ∧ c ≠ '-' ∧ c ≠ ':') :
    moment? (s ++ (w ++ rest)) = none := by
  have unsigned : moment? (w ++ rest) = none := by
    refine moment?_eq_none (.inr ?_)
    have drop : rest.dropWhile isDigit = rest := by
      cases rest with
      | nil => rfl
      | cons c rest => simp [stops c rfl]
    have run {ds w : List Char} (grouped : Grouped isDigit ds w) :
        ∀ c ∈ ((w ++ rest).dropWhile isDigit).head?, c ≠ '-' ∧ c ≠ ':' := by
      induction grouped with
      | single digit =>
        rw [List.singleton_append, List.dropWhile_cons_of_pos digit, drop]
        exact fun c member => (stops c member).2
      | next digit _ ih => rwa [List.cons_append, List.dropWhile_cons_of_pos digit]
      | parted digit =>
        rw [List.cons_append, List.dropWhile_cons_of_pos digit]
        rintro _ ⟨⟩
        decide
    cases decimal with
    | zero => exact run (.single rfl)
    | grouped digits => exact run digits
  cases isSign with
  | none => exact unsigned
  | plus => exact moment?_eq_none (.inl (by rintro _ ⟨⟩; rfl))
  | minus => exact moment?_eq_none (.inl (by rintro _ ⟨⟩; rfl))

theorem twoDigits?_decimalPadded {n : Nat} (small : n < 100) (rest : List Char) :
    twoDigits? (decimalPadded 2 n ++ rest) = some (n, rest) :=
  twoDigits?_eq_some.mpr ⟨small, rfl⟩

theorem mark?_self (mark : Char) (rest : List Char) : mark? mark (mark :: rest) = some rest :=
  mark?_eq_some.mpr rfl

theorem date?_day {d : Date} (day : IsDay d) (rest : List Char) :
    date? (Moment.dateText d ++ rest) = some rest := by
  obtain ⟨valid, bounds⟩ := day
  obtain ⟨n, year⟩ : ∃ n : Nat, d.year = n := ⟨d.year.toNat, by omega⟩
  have named := Date.bounds_of_isValid valid
  have yearText : Moment.yearText d.year = decimalPadded 2 (n / 100) ++ decimalPadded 2 (n % 100) := by
    rw [Moment.yearText, if_pos bounds, year, Int.toNat_natCast,
      Moment.decimalPadded_append (by omega) (by omega), Nat.div_add_mod]
  have text : Moment.dateText d ++ rest = decimalPadded 2 (n / 100) ++ (decimalPadded 2 (n % 100) ++
      '-' :: (decimalPadded 2 d.month ++ '-' :: (decimalPadded 2 d.day ++ rest))) := by
    simp [Moment.dateText, yearText]
  have whole : (⟨(100 * (n / 100) + n % 100 : Nat), d.month, d.day⟩ : Date) = d := by
    rw [Nat.div_add_mod, ← year]
  rw [text]
  simp only [date?, Option.bind_eq_bind, Option.bind_some, mark?_self,
    twoDigits?_decimalPadded (by omega : n / 100 < 100),
    twoDigits?_decimalPadded (by omega : n % 100 < 100),
    twoDigits?_decimalPadded (by omega : d.month < 100),
    twoDigits?_decimalPadded (by omega : d.day < 100), whole, valid, if_true]

theorem bounded?_decimalPadded {high n : Nat} (small : high < 100) (within : n ≤ high) (rest : List Char) :
    bounded? high (decimalPadded 2 n ++ rest) = some rest :=
  (bounded?_eq_some small).mpr ⟨n, within, rfl⟩

theorem secondFraction_pointed {fraction rest : List Char} (digits : ∀ c ∈ fraction, isDigit c = true)
    (stops : ∀ c ∈ rest.head?, isDigit c = false ∧ c ≠ '.') :
    secondFraction (Moment.pointed fraction ++ rest) = rest := by
  cases fraction with
  | nil =>
    rw [Moment.pointed, List.nil_append]
    unfold secondFraction
    split
    · exact absurd rfl (stops '.' rfl).2
    · rfl
  | cons d ds =>
    obtain ⟨first, others⟩ := List.forall_mem_cons.mp digits
    have text : Moment.pointed (d :: ds) ++ rest = '.' :: d :: (ds ++ rest) := rfl
    rw [text, secondFraction, if_pos first, dropWhile_digits others fun c member => (stops c member).1]

theorem time?_time {c : Moment.Clock} {fraction rest : List Char} (time : IsTime c fraction)
    (stops : ∀ c ∈ rest.head?, isDigit c = false ∧ c ≠ '.') : time? (timeText c fraction ++ rest) = some rest := by
  obtain ⟨⟨hour, minute, second⟩, digits⟩ := time
  have text : timeText c fraction ++ rest = decimalPadded 2 c.hour ++ ':' :: (decimalPadded 2 c.minute ++
      ':' :: (decimalPadded 2 c.second ++ (Moment.pointed fraction ++ rest))) := by
    simp [timeText, Moment.clockText]
  rw [text]
  simp only [time?, Option.bind_eq_bind, Option.bind_some, mark?_self,
    bounded?_decimalPadded (by decide : 23 < 100) hour,
    bounded?_decimalPadded (by decide : 59 < 100) minute,
    bounded?_decimalPadded (by decide : 60 < 100) second, secondFraction_pointed digits stops]
  rfl

theorem offset?_zone {zone : Moment.Zone} (isZone : IsZone zone) (rest : List Char) :
    offset? (zone.chars ++ rest) = some rest := by
  have distance {hour minute : Nat} (within : hour ≤ 23 ∧ minute ≤ 59) :
      (bounded? 23 (Moment.Zone.distanceText hour minute ++ rest)).bind
        (fun cs => (mark? ':' cs).bind (bounded? 59)) = some rest := by
    rw [Moment.Zone.distanceText, List.append_assoc, List.cons_append,
      bounded?_decimalPadded (by decide) within.1, Option.bind_some, mark?_self, Option.bind_some,
      bounded?_decimalPadded (by decide) within.2]
  cases zone with
  | upper => rfl
  | lower => rfl
  | ahead hour minute => exact distance isZone
  | behind hour minute => exact distance isZone
  | minus hour minute => exact isZone.elim

theorem timeAfterDate?_time (separator : Moment.Separator) {c : Moment.Clock} {fraction rest : List Char}
    (time : IsTime c fraction) (stops : ∀ c ∈ rest.head?, isDigit c = false ∧ c ≠ '.') :
    timeAfterDate? (separator.mark :: (timeText c fraction ++ rest)) = some ((offset? rest).getD rest) := by
  have known : separator.mark = 'T' ∨ separator.mark = 't' ∨ separator.mark = ' ' := by
    cases separator <;> decide
  rw [timeAfterDate?, if_pos known, time?_time time stops]
  rfl

theorem timeAfterDate?_eq_none {rest : List Char} (ends : Ends rest) : timeAfterDate? rest = none := by
  cases rest with
  | nil => rfl
  | cons c rest =>
    have first := ends.head c rfl
    rw [timeAfterDate?]
    split
    · next known =>
      have blank : c = ' ' := by
        rcases known with rfl | rfl | rfl
        · exact absurd first (by decide)
        · exact absurd first (by decide)
        · rfl
      subst blank
      have next : Ends rest := ends
      rw [time?_eq_none (.inl (next.all (by decide)))]
      rfl
    · rfl

theorem date?_time (c : Moment.Clock) (small : c.hour < 100) (fraction rest : List Char) :
    date? (timeText c fraction ++ rest) = none := by
  have colon (tail : List Char) : twoDigits? (':' :: tail) = none := by cases tail <;> rfl
  simp only [timeText, Moment.clockText, List.append_assoc, List.cons_append, date?, Option.bind_eq_bind,
    twoDigits?_decimalPadded small, Option.bind_some, colon, Option.bind_none]

theorem moment?_moment {cs rest : List Char} (moment : IsMoment cs) (ends : Ends rest) :
    moment? (cs ++ rest) = some (String.ofList cs, rest) := by
  have taken : String.ofList ((cs ++ rest).take ((cs ++ rest).length - rest.length)) = String.ofList cs := by
    rw [List.length_append, Nat.add_sub_cancel, List.take_left]
  have stops : ∀ c ∈ rest.head?, isDigit c = false ∧ c ≠ '.' := ends.all (by decide)
  have noOffset : (offset? rest).getD rest = rest := by
    cases rest with
    | nil => rfl
    | cons c rest =>
      have other := ends.all (p := fun c => ¬(c = 'Z' ∨ c = 'z') ∧ ¬(c = '+' ∨ c = '-')) (by decide) c rfl
      rw [offset?, if_neg other.1, if_neg other.2]
      rfl
  cases moment with
  | day day =>
    simp only [moment?, date?_day day, timeAfterDate?_eq_none ends, Option.getD_none, Option.map_some,
      taken]
  | @time c fraction time =>
    have small : c.hour < 100 := Nat.lt_of_le_of_lt time.clock.1 (by decide)
    simp only [moment?, date?_time c small, time?_time time stops, Option.map_some, taken]
  | @plain d c fraction separator day time =>
    have read := timeAfterDate?_time separator time stops
    rw [List.append_assoc, List.cons_append] at taken ⊢
    simp only [moment?, date?_day day, read, noOffset, Option.getD_some, Option.map_some, taken]
  | @zoned d c fraction zone separator day time isZone =>
    have zoneStops : ∀ c ∈ (zone.chars ++ rest).head?, isDigit c = false ∧ c ≠ '.' := by
      cases zone with
      | minus => exact isZone.elim
      | _ => rintro _ ⟨⟩; decide
    have read := timeAfterDate?_time separator time zoneStops
    rw [List.append_assoc, List.cons_append, List.append_assoc] at taken ⊢
    simp only [moment?, date?_day day, read, offset?_zone isZone, Option.getD_some, Option.map_some, taken]

theorem floatDigits?_eq_none (negative : Bool) {ds w rest : List Char} (decimal : IsDecimal ds w)
    (stops : ∀ c ∈ rest.head?, (isDigit c = false ∧ c ≠ '_') ∧ c ≠ '.' ∧ c ≠ 'e' ∧ c ≠ 'E') :
    floatDigits? negative (w ++ rest) = none := by
  have noFraction := fraction?_eq_none fun c member => (stops c member).2.1
  have noExponent := exponent?_eq_none fun c member => (stops c member).2.2
  simp only [floatDigits?, decimalRun?_decimal decimal fun c member => (stops c member).1,
    Option.bind_some, noFraction, noExponent, Option.map_none]

theorem specialFloat?_eq_none {negative : Bool} {c : Char} {cs : List Char} (digit : isDigit c = true) :
    specialFloat? negative (c :: cs) = none := by
  unfold specialFloat?
  split
  · next same =>
    obtain rfl := (List.cons.inj same).1
    cases digit
  · next same =>
    obtain rfl := (List.cons.inj same).1
    cases digit
  · rfl

theorem float?_integer {i : Int} {cs rest : List Char} (integer : IsInteger i cs) (ends : Ends rest) :
    float? (cs ++ rest) = none := by
  cases integer with
  | @decimal negative s ds w isSign digits =>
    have noDigits := floatDigits?_eq_none negative digits (ends.all (by decide))
    obtain ⟨c, tail, rfl, digit⟩ := digits.head
    have plain : ∀ d ∈ (c :: tail ++ rest).head?, d ≠ '+' ∧ d ≠ '-' := by
      rintro _ ⟨⟩
      exact ne_sign_of_isDigit digit
    simp only [List.append_assoc, float?, sign_append isSign plain, noDigits]
    exact specialFloat?_eq_none digit
  | @based base letter ds w isBase digits =>
    have noDigits : floatDigits? false (['0'] ++ letter :: (w ++ rest)) = none := by
      refine floatDigits?_eq_none false .zero ?_
      rintro _ ⟨⟩
      cases isBase <;> decide
    have text : '0' :: letter :: w ++ rest = ['0'] ++ letter :: (w ++ rest) := rfl
    have unsigned : sign (['0'] ++ letter :: (w ++ rest)) = (false, ['0'] ++ letter :: (w ++ rest)) := rfl
    simp only [text, float?, unsigned, noDigits]
    exact specialFloat?_eq_none rfl

theorem isSome_filter_hexDigit? (base : Nat) (c : Char) :
    ((hexDigit? c).filter (· < base)).isSome = isDigitIn base c := by
  rw [Option.isSome_filter, isDigitIn]

theorem Grouped.forall_mem {digit : Char → Bool} {ds cs : List Char} (grouped : Grouped digit ds cs) :
    ∀ c ∈ ds, digit c = true := by
  induction grouped with
  | single known => simpa using known
  | next known _ ih => exact List.forall_mem_cons.mpr ⟨known, ih⟩
  | parted known _ ih => exact List.forall_mem_cons.mpr ⟨known, ih⟩

theorem radixInteger?_grouped {base : Nat} {ds cs rest : List Char}
    (digits : Grouped (isDigitIn base) ds cs)
    (stops : ∀ c ∈ rest.head?, isDigitIn base c = false ∧ c ≠ '_') :
    radixInteger? base (cs ++ rest) = (inInt64 (valueIn base ds : Nat)).map (·, rest) := by
  have run : digitRun? (fun c => ((hexDigit? c).filter (· < base)).isSome) (cs ++ rest) = some (ds, rest) := by
    simp only [isSome_filter_hexDigit?]
    exact digitRun?_grouped rfl digits stops
  have value : ds.foldl (fun n c => base * n + ((hexDigit? c).filter (· < base)).getD 0) 0 =
      valueIn base ds := by
    refine List.foldl_ext _ _ 0 fun n c member => ?_
    obtain ⟨d, shown, small⟩ := (Option.any_eq_true _ _).mp (digits.forall_mem c member)
    rw [shown, Option.filter_some_pos (p := fun d => decide (d < base)) small]
  rw [radixInteger?, run, Option.bind_some]
  simp only [value]

theorem integer?_unbased {cs : List Char}
    (plain : ∀ letter tail, cs = '0' :: letter :: tail → letter ≠ 'x' ∧ letter ≠ 'o' ∧ letter ≠ 'b') :
    integer? cs = (decimalRun? (sign cs).2).bind fun (ds, rest) =>
      (inInt64 (signed (sign cs).1 (decimalValue ds))).map (·, rest) := by
  unfold integer?
  split
  · exact absurd rfl (plain _ _ rfl).1
  · exact absurd rfl (plain _ _ rfl).2.1
  · exact absurd rfl (plain _ _ rfl).2.2
  · rfl

theorem integer?_integer {i : Int} {cs rest : List Char} (integer : IsInteger i cs) (ends : Ends rest) :
    integer? (cs ++ rest) = (inInt64 i).map (·, rest) := by
  cases integer with
  | @decimal negative s ds w isSign digits =>
    have read := decimalRun?_decimal digits (ends.all (by decide))
    have plain : ∀ letter tail, s ++ w ++ rest = '0' :: letter :: tail →
        letter ≠ 'x' ∧ letter ≠ 'o' ∧ letter ≠ 'b' := by
      rintro letter tail same
      cases isSign with
      | none =>
        cases digits with
        | zero =>
          obtain rfl : rest = letter :: tail := (List.cons.inj same).2
          exact ends.all (p := fun c => c ≠ 'x' ∧ c ≠ 'o' ∧ c ≠ 'b') (by decide) letter rfl
        | grouped digits leading =>
          obtain ⟨c, front, rfl, -⟩ := digits.head
          exact absurd (congrArg some (List.cons.inj same).1) leading
      | plus => exact absurd (List.cons.inj same).1 (by decide)
      | minus => exact absurd (List.cons.inj same).1 (by decide)
    have unsigned : sign (s ++ w ++ rest) = (negative, w ++ rest) := by
      obtain ⟨c, front, rfl, digit⟩ := digits.head
      rw [List.append_assoc]
      refine sign_append isSign ?_
      rintro _ ⟨⟩
      exact ne_sign_of_isDigit digit
    rw [integer?_unbased plain, unsigned, read]
    rfl
  | based isBase digits =>
    cases isBase with
    | hexadecimal => exact radixInteger?_grouped digits (ends.all (by decide))
    | octal => exact radixInteger?_grouped digits (ends.all (by decide))
    | binary => exact radixInteger?_grouped digits (ends.all (by decide))

def isWordStart (c : Char) : Bool :=
  isDigit c || c == '+' || c == '-' || c == 't' || c == 'f' || c == 'i' || c == 'n'

theorem isWordStart_of_isDigit {c : Char} (digit : isDigit c = true) : isWordStart c = true := by
  simp [isWordStart, digit]

theorem IsSign.head {negative : Bool} {s cs : List Char} (isSign : IsSign negative s)
    (front : ∃ c tail, cs = c :: tail ∧ isWordStart c = true ∧ c ≠ 't' ∧ c ≠ 'f') :
    ∃ c tail, s ++ cs = c :: tail ∧ isWordStart c = true ∧ c ≠ 't' ∧ c ≠ 'f' := by
  cases isSign with
  | none => exact front
  | plus => exact ⟨_, _, rfl, by decide⟩
  | minus => exact ⟨_, _, rfl, by decide⟩

theorem word?_of_head {c : Char} (tail : List Char) (other : c ≠ 't' ∧ c ≠ 'f') :
    word? (c :: tail) = match moment? (c :: tail), float? (c :: tail) with
      | some (text, rest), _ => some (.moment text, rest)
      | none, some (x, rest) => some (.float x, rest)
      | none, none => (integer? (c :: tail)).map fun (i, rest) => (.integer i, rest) := by
  unfold word?
  split
  · next same => exact absurd (List.cons.inj same).1 other.1
  · next same => exact absurd (List.cons.inj same).1 other.2
  · rfl

theorem number_head {negative : Bool} {s ds w : List Char} (isSign : IsSign negative s)
    (decimal : IsDecimal ds w) (rest : List Char) :
    ∃ c tail, s ++ (w ++ rest) = c :: tail ∧ isWordStart c = true ∧ c ≠ 't' ∧ c ≠ 'f' := by
  obtain ⟨c, tail, rfl, digit⟩ := decimal.head
  refine isSign.head ⟨c, _, rfl, isWordStart_of_isDigit digit, ?_, ?_⟩ <;> rintro rfl <;> cases digit

theorem IsInteger.head {i : Int} {cs : List Char} (integer : IsInteger i cs) :
    ∃ c tail, cs = c :: tail ∧ isWordStart c = true ∧ c ≠ 't' ∧ c ≠ 'f' := by
  cases integer with
  | decimal isSign digits => simpa using number_head isSign digits []
  | based => exact ⟨_, _, rfl, by decide⟩

theorem IsFloat.head {x : Binary64} {cs : List Char} (float : IsFloat x cs) :
    ∃ c tail, cs = c :: tail ∧ isWordStart c = true ∧ c ≠ 't' ∧ c ≠ 'f' := by
  cases float with
  | digits isSign digits => exact number_head isSign digits _
  | infinity isSign => exact isSign.head ⟨_, _, rfl, by decide⟩
  | nan isSign => exact isSign.head ⟨_, _, rfl, by decide⟩

theorem padded_head (width n : Nat) (rest : List Char) :
    ∃ c tail, decimalPadded width n ++ rest = c :: tail ∧ isWordStart c = true ∧ c ≠ 't' ∧ c ≠ 'f' := by
  obtain ⟨c, tail, text⟩ := List.exists_cons_of_ne_nil (decimalPadded_ne_nil width n)
  have digit : isDigit c = true := isDigit_of_mem_decimalPadded width n c (text ▸ List.mem_cons_self)
  refine ⟨c, tail ++ rest, by rw [text]; rfl, isWordStart_of_isDigit digit, ?_, ?_⟩ <;> rintro rfl <;>
    cases digit

theorem IsMoment.head {cs : List Char} (moment : IsMoment cs) :
    ∃ c tail, cs = c :: tail ∧ isWordStart c = true ∧ c ≠ 't' ∧ c ≠ 'f' := by
  have day {d : Date} (day : IsDay d) (rest : List Char) :
      ∃ c tail, Moment.dateText d ++ rest = c :: tail ∧ isWordStart c = true ∧ c ≠ 't' ∧ c ≠ 'f' := by
    have padded := padded_head 4 d.year.toNat
      ('-' :: decimalPadded 2 d.month ++ '-' :: decimalPadded 2 d.day ++ rest)
    simpa [Moment.dateText, Moment.yearText, day.year] using padded
  cases moment with
  | day isDay => simpa using day isDay []
  | @time c fraction =>
    have padded := padded_head 2 c.hour
      (':' :: decimalPadded 2 c.minute ++ ':' :: decimalPadded 2 c.second ++ Moment.pointed fraction)
    simpa [timeText, Moment.clockText] using padded
  | plain _ isDay => exact day isDay _
  | zoned _ isDay => exact day isDay _

theorem moment?_integer {i : Int} {cs rest : List Char} (integer : IsInteger i cs) (ends : Ends rest) :
    moment? (cs ++ rest) = none := by
  cases integer with
  | decimal isSign digits =>
    rw [List.append_assoc]
    exact moment?_number isSign digits (ends.all (by decide))
  | @based base letter _ w isBase =>
    have stops : ∀ c ∈ (letter :: (w ++ rest)).head?, isDigit c = false ∧ c ≠ '-' ∧ c ≠ ':' := by
      rintro _ ⟨⟩
      cases isBase <;> decide
    exact moment?_number .none .zero stops

theorem moment?_float {x : Binary64} {cs : List Char} (float : IsFloat x cs) (rest : List Char) :
    moment? (cs ++ rest) = none := by
  have unmarked {negative : Bool} {s cs : List Char} (isSign : IsSign negative s)
      (letter : ∀ c ∈ cs.head?, isDigit c = false) : Unmarked (s ++ cs) := by
    cases isSign with
    | none => exact .inl letter
    | plus => exact .inl (by rintro _ ⟨⟩; rfl)
    | minus => exact .inl (by rintro _ ⟨⟩; rfl)
  cases float with
  | @digits negative s whole w ds f x e isSign digits fraction exponent marked =>
    have text : s ++ (w ++ (f ++ x)) ++ rest = s ++ (w ++ (f ++ (x ++ rest))) := by simp
    rw [text]
    refine moment?_number isSign digits ?_
    cases fraction with
    | digits => rintro _ ⟨⟩; decide
    | none =>
      cases exponent with
      | none => exact absurd rfl marked
      | digits letter =>
        rintro _ ⟨⟩
        rcases letter with rfl | rfl <;> decide
  | infinity isSign =>
    rw [List.append_assoc]
    exact moment?_eq_none (unmarked isSign (by rintro _ ⟨⟩; rfl))
  | nan isSign =>
    rw [List.append_assoc]
    exact moment?_eq_none (unmarked isSign (by rintro _ ⟨⟩; rfl))

theorem word?_word {v : Value} {cs rest : List Char} (word : IsWord v cs) (ends : Ends rest) :
    word? (cs ++ rest) = some (v, rest) := by
  cases word with
  | yes => rfl
  | no => rfl
  | float float =>
    have noMoment := moment?_float float rest
    have read := float?_float float ends
    obtain ⟨c, tail, rfl, -, other⟩ := float.head
    rw [List.cons_append] at noMoment read ⊢
    rw [word?_of_head _ other, noMoment, read]
  | moment moment =>
    have read := moment?_moment moment ends
    obtain ⟨c, tail, rfl, -, other⟩ := moment.head
    rw [List.cons_append] at read ⊢
    rw [word?_of_head _ other, read]

theorem word?_integer {i : Int} {cs rest : List Char} (integer : IsInteger i cs) (ends : Ends rest) :
    word? (cs ++ rest) = (inInt64 i).map fun i => (.integer i, rest) := by
  have noMoment := moment?_integer integer ends
  have noFloat := float?_integer integer ends
  have read := integer?_integer integer ends
  obtain ⟨c, tail, rfl, -, other⟩ := integer.head
  rw [List.cons_append] at noMoment noFloat read ⊢
  rw [word?_of_head _ other, noMoment, noFloat, read, Option.map_map]
  rfl

end GatewayLink.Toml
