import Mathlib.Data.List.TakeWhile
import GatewayLink.Moment.Layout
import GatewayLink.Proofs.Moment.Calendar
import GatewayLink.Proofs.Text.Digits

/-! Reading back written moments.
The compact layout gives back a moment exactly if its year has four digits: a reader of that layout takes
no sign. The expanded layout gives back every moment of whole seconds. Leap seconds are kept, since they
are shown as second 60. -/

namespace GatewayLink

theorem Date.daysInMonth_le (year : Int) (month : Nat) : daysInMonth year month ≤ 31 := by
  unfold daysInMonth
  split <;> try decide
  split <;> decide

theorem Date.bounds_of_isValid {d : Date} (valid : d.isValid = true) :
    (1 ≤ d.month ∧ d.month ≤ 12) ∧ 1 ≤ d.day ∧ d.day ≤ 31 := by
  simp only [isValid, Bool.and_eq_true, decide_eq_true_eq] at valid
  have most := daysInMonth_le d.year d.month
  refine ⟨?_, by omega, by omega⟩
  have named : daysInMonth d.year d.month ≠ 0 := by omega
  by_contra outside
  refine named ?_
  unfold daysInMonth
  split <;> first | rfl | omega

theorem exists_of_bind_eq_ok {ε α β : Type} {x : Except ε α} {f : α → Except ε β} {b : β}
    (done : (x >>= f) = .ok b) : ∃ a, x = .ok a ∧ f a = .ok b := by
  cases x with
  | error e => cases done
  | ok a => exact ⟨a, rfl, done⟩

namespace Moment

open Text

theorem whenInRange_eq_ok {ok : Bool} {u : Unit} : whenInRange ok = .ok u ↔ ok = true := by
  cases ok <;> simp [whenInRange]

theorem ofUnix?_eq_some {seconds : Int} {nanos : Nat} {m : Moment} :
    ofUnix? seconds nanos = some m ↔ m.seconds = seconds ∧ m.nanos = nanos := by
  constructor
  · intro made
    unfold ofUnix? at made
    split at made
    · cases made
      exact ⟨rfl, rfl⟩
    · cases made
  · rintro ⟨rfl, rfl⟩
    exact m.ofUnix?_self

theorem date_isValid (m : Moment) : m.date.isValid = true := Date.isValid_ofDayNumber _

theorem second_clock (m : Moment) :
    (m.nanos < billion ∧ m.clock.second = (m.seconds % 86400).toNat % 60) ∨
      (billion ≤ m.nanos ∧ m.nanos < 2 * billion ∧ m.seconds % 60 = 59 ∧ m.clock.second = 60) := by
  rcases Nat.lt_or_ge m.nanos billion with plain | leap
  · left
    refine ⟨plain, ?_⟩
    simp [clock, isLeapSecond, Nat.not_le_of_lt plain]
  · right
    obtain ⟨bound, last⟩ := m.isMoment.2.resolve_left (Nat.not_lt_of_le leap)
    refine ⟨leap, bound, last, ?_⟩
    have shown : m.clock.second = (m.seconds % 86400).toNat % 60 + 1 := by
      simp [clock, isLeapSecond, leap]
    omega

theorem clock_inRange (m : Moment) : m.clock.inRange = true := by
  have hour : m.clock.hour = (m.seconds % 86400).toNat / 3600 := rfl
  have minute : m.clock.minute = (m.seconds % 86400).toNat / 60 % 60 := rfl
  have second : m.clock.second ≤ 60 := by
    rcases m.second_clock with ⟨-, shown⟩ | ⟨-, -, -, shown⟩ <;> omega
  simp only [Clock.inRange, Bool.and_eq_true, decide_eq_true_eq]
  omega

theorem seconds_shown (m : Moment) :
    86400 * m.date.dayNumber + 3600 * m.clock.hour + 60 * m.clock.minute +
      min m.clock.second 59 - 0 = m.seconds := by
  have day : m.date.dayNumber = m.seconds / 86400 := Date.dayNumber_ofDayNumber _
  have hour : m.clock.hour = (m.seconds % 86400).toNat / 3600 := rfl
  have minute : m.clock.minute = (m.seconds % 86400).toNat / 60 % 60 := rfl
  have second : min m.clock.second 59 = (m.seconds % 86400).toNat % 60 := by
    rcases m.second_clock with ⟨-, shown⟩ | ⟨-, -, last, shown⟩
    · omega
    · omega
  rw [day, hour, minute]
  omega

theorem nanos_shown (m : Moment) :
    (if m.clock.second = 60 then m.fraction + billion else m.fraction) = m.nanos := by
  rw [fraction]
  rcases m.second_clock with ⟨plain, shown⟩ | ⟨leap, bound, -, shown⟩
  · rw [if_neg (by omega), Nat.mod_eq_of_lt plain]
  · rw [if_pos shown, Nat.mod_eq_sub_mod leap, Nat.mod_eq_of_lt (by omega)]
    omega

theorem ofClock?_shown (m : Moment) : ofClock? m.date m.clock m.fraction 0 = some m := by
  unfold ofClock?
  rw [m.nanos_shown, m.seconds_shown]
  exact ofUnix?_self m

theorem ofClock_shown (m : Moment) : ofClock m.date m.clock m.fraction 0 = .ok m := by
  unfold ofClock
  rw [ofClock?_shown]

theorem readMark_self (mark : Char) (rest : List Char) : readMark mark (mark :: rest) = .ok rest :=
  if_pos rfl

theorem readPair_decimalPadded {n : Nat} (fits : n < 100) (rest : List Char) :
    readPair (decimalPadded 2 n ++ rest) = .ok (n, rest) := by
  have length : (decimalPadded 2 n).length = 2 := length_decimalPadded (by decide) fits
  obtain ⟨a, b, text⟩ : ∃ a b, decimalPadded 2 n = [a, b] := by
    match decimalPadded 2 n, length with
    | [a, b], _ => exact ⟨a, b, rfl⟩
  have value := decimalValue_decimalPadded 2 n
  have digits (c : Char) (member : c ∈ [a, b]) : isDigit c = true :=
    isDigit_of_mem_decimalPadded _ n _ (text ▸ member)
  rw [text] at value ⊢
  have sum : 10 * digitValue a + digitValue b = n := by simpa [decimalValue] using value
  simp [readPair, digits, sum]

theorem readYear_decimalPadded {n : Nat} (fits : n < 10000) (rest : List Char) :
    readYear (decimalPadded 4 n ++ rest) = .ok ((n : Int), rest) := by
  have length : (decimalPadded 4 n).length = 4 := length_decimalPadded (by decide) fits
  obtain ⟨a, b, c, d, text⟩ : ∃ a b c d, decimalPadded 4 n = [a, b, c, d] := by
    match decimalPadded 4 n, length with
    | [a, b, c, d], _ => exact ⟨a, b, c, d, rfl⟩
  have value := decimalValue_decimalPadded 4 n
  have digits (c' : Char) (member : c' ∈ [a, b, c, d]) : isDigit c' = true :=
    isDigit_of_mem_decimalPadded _ n _ (text ▸ member)
  rw [text] at value ⊢
  have sum : 100 * (10 * digitValue a + digitValue b) + (10 * digitValue c + digitValue d) = n := by
    rw [← value]
    simp only [decimalValue, List.foldl_cons, List.foldl_nil]
    omega
  simp [readYear, readPair, digits, bind, Except.bind, pure, Except.pure, ← sum]

theorem readDate_dateText {d : Date} (valid : d.isValid = true)
    (year : 0 ≤ d.year ∧ d.year ≤ 9999) (rest : List Char) :
    readDate (dateText d ++ rest) = .ok (d, rest) := by
  obtain ⟨month, day⟩ := Date.bounds_of_isValid valid
  have back : (d.year.toNat : Int) = d.year := Int.toNat_of_nonneg year.1
  simp only [dateText, yearText, if_pos year, List.append_assoc, List.cons_append, readDate,
    readYear_decimalPadded (show d.year.toNat < 10000 by omega),
    readPair_decimalPadded (show d.month < 100 by omega),
    readPair_decimalPadded (show d.day < 100 by omega), readMark_self, bind, Except.bind, back]
  have whole : (⟨d.year, d.month, d.day⟩ : Date) = d := rfl
  rw [whole, valid]
  rfl

theorem readClock_clockText {c : Clock} (ok : c.inRange = true) (rest : List Char) :
    readClock (clockText c ++ rest) = .ok (c, rest) := by
  simp only [Clock.inRange, Bool.and_eq_true, decide_eq_true_eq] at ok
  simp only [clockText, List.append_assoc, List.cons_append, readClock,
    readPair_decimalPadded (show c.hour < 100 by omega),
    readPair_decimalPadded (show c.minute < 100 by omega),
    readPair_decimalPadded (show c.second < 100 by omega), readMark_self, bind, Except.bind]
  rfl

theorem readFraction_digits {ds rest : List Char} (present : ds ≠ [])
    (digits : ∀ c ∈ ds, isDigit c = true) (stops : ∀ c ∈ rest.head?, isDigit c = false) :
    readFraction ('.' :: (ds ++ rest)) = .ok (fractionNanos ds, rest) := by
  obtain ⟨d, ds, rfl⟩ := List.exists_cons_of_ne_nil present
  have taken := takeWhile_digits digits stops
  have dropped := dropWhile_digits digits stops
  rw [List.cons_append] at taken dropped
  simp only [List.cons_append, readFraction, taken, dropped]

theorem readFraction_micros {n : Nat} (fits : n < 1000000) :
    readFraction ('.' :: decimalPadded 6 n ++ ['Z']) = .ok (1000 * n, ['Z']) := by
  have digits := isDigit_of_mem_decimalPadded 6 n
  have stops : ∀ c ∈ ['Z'].head?, isDigit c = false := by
    intro c member
    cases member
    rfl
  have length : (decimalPadded 6 n).length = 6 := length_decimalPadded (by decide) fits
  have nanos : fractionNanos (decimalPadded 6 n) = 1000 * n := by
    rw [fractionNanos, List.take_of_length_le (by omega), decimalValue_decimalPadded, length,
      Nat.mul_comm]
  rw [List.cons_append, readFraction_digits (decimalPadded_ne_nil 6 n) digits stops, nanos]

theorem length_le_utf8Length (cs : List Char) : cs.length ≤ utf8Length cs := by
  have counts (n : Nat) : n + cs.length ≤ cs.foldl (fun n c => n + c.utf8Size) n := by
    induction cs generalizing n with
    | nil => exact Nat.le_refl n
    | cons c rest ih =>
      have one := c.utf8Size_pos
      have later := ih (n + c.utf8Size)
      rw [List.length_cons, List.foldl_cons]
      omega
  simpa [utf8Length] using counts 0

theorem toList_compactText (m : Moment) :
    m.compactText.toList = dateText m.date ++ ('T' :: (clockText m.clock ++
      ('.' :: decimalPadded 6 (m.fraction / 1000) ++ ['Z']))) := by
  simp [compactText]

theorem long_shown (d : Date) (mark : Char) (c : Clock) (rest : List Char) :
    ¬utf8Length (dateText d ++ mark :: (clockText c ++ rest)) < 19 := by
  have year : 4 ≤ (yearText d.year).length := by
    rw [yearText]
    split
    · exact le_length_decimalPadded 4 _
    · exact Nat.le_succ_of_le (le_length_decimalPadded 4 _)
  have month := le_length_decimalPadded 2 d.month
  have day := le_length_decimalPadded 2 d.day
  have hour := le_length_decimalPadded 2 c.hour
  have minute := le_length_decimalPadded 2 c.minute
  have second := le_length_decimalPadded 2 c.second
  have length : 19 ≤ (dateText d ++ mark :: (clockText c ++ rest)).length := by
    simp only [dateText, clockText, List.length_append, List.length_cons]
    omega
  exact Nat.not_lt_of_le (Nat.le_trans length (length_le_utf8Length _))

theorem long_compactText (m : Moment) : ¬ utf8Length m.compactText.toList < 19 := by
  rw [toList_compactText]
  exact long_shown m.date 'T' m.clock _

theorem micros_shown {m : Moment} (fits : m.fitsCompact = true) :
    1000 * (m.fraction / 1000) = m.fraction ∧ m.fraction / 1000 < 1000000 := by
  simp only [fitsCompact, beq_iff_eq, fraction, billion] at fits ⊢
  omega

theorem readCompact_compactText {m : Moment} (fits : m.fitsCompact = true)
    (year : 0 ≤ m.date.year ∧ m.date.year ≤ 9999) : readCompact m.compactText = .ok m := by
  have valid := m.date_isValid
  have inRange := m.clock_inRange
  obtain ⟨micros, small⟩ := micros_shown fits
  rw [readCompact, readCompactChars, if_neg m.long_compactText, toList_compactText]
  simp only [readDate_dateText valid year, readSeparator, true_or, if_true,
    readClock_clockText inRange, readFraction_micros small, micros, inRange, whenInRange,
    readOffset, finish, bind, Except.bind]
  exact ofClock_shown m

theorem readYear_signed {sign : Char} (rest : List Char) (signed : isDigit sign = false) :
    readYear (sign :: rest) = .error .invalidCharacters := by
  cases rest <;> simp [readYear, readPair, signed, bind, Except.bind]

theorem readCompact_signed {m : Moment} (year : ¬ (0 ≤ m.date.year ∧ m.date.year ≤ 9999)) :
    readCompact m.compactText = .error .invalidCharacters := by
  obtain ⟨sign, signed, rest, text⟩ : ∃ sign, isDigit sign = false ∧
      ∃ rest, m.compactText.toList = sign :: rest := by
    refine ⟨if m.date.year < 0 then '-' else '+', by split <;> rfl, ?_⟩
    simp only [compactText, dateText, yearText, if_neg year, String.toList_ofList, List.cons_append]
    exact ⟨_, rfl⟩
  rw [readCompact, readCompactChars, if_neg m.long_compactText, text]
  simp only [readDate, readYear_signed rest signed, bind, Except.bind]

theorem readCompact_eq_ok_iff {m : Moment} (fits : m.fitsCompact = true) :
    readCompact m.compactText = .ok m ↔ 0 ≤ m.date.year ∧ m.date.year ≤ 9999 := by
  refine ⟨fun read => ?_, readCompact_compactText fits⟩
  by_contra year
  rw [readCompact_signed year] at read
  cases read

theorem readNumber_decimalPadded {width n : Nat} (positive : 0 < width) (fits : n < Nat.pow 10 width)
    (rest : List Char) : readNumber width (decimalPadded width n ++ rest) = .ok (n, rest) := by
  have digits := isDigit_of_mem_decimalPadded width n
  have length := length_decimalPadded positive fits
  have taken : ((decimalPadded width n ++ rest).take width).takeWhile isDigit =
      decimalPadded width n := by
    rw [List.take_left' length]
    exact List.takeWhile_eq_self_iff.mpr digits
  have dropped : (decimalPadded width n ++ rest).drop (decimalPadded width n).length = rest :=
    List.drop_left
  simp only [readNumber, skipBlanks_digits (decimalPadded_ne_nil width n) digits, taken]
  obtain ⟨d, ds, text⟩ := List.exists_cons_of_ne_nil (decimalPadded_ne_nil width n)
  have value := decimalValue_decimalPadded width n
  rw [text] at value dropped ⊢
  simp only [value, dropped]

theorem readBounded_decimalPadded {low high n : Nat} (above : low ≤ n) (below : n ≤ high)
    (fits : n < 100) (rest : List Char) :
    readBounded low high (decimalPadded 2 n ++ rest) = .ok (n, rest) := by
  simp only [readBounded, readNumber_decimalPadded (show 0 < 2 by decide) fits, whenInRange, above,
    below, decide_true, Bool.and_self, if_true, bind, Except.bind]
  rfl

theorem readSignedYear_decimalPadded {sign : Int} {n : Nat} (rest : List Char)
    (fits : -2147483648 ≤ sign * n ∧ sign * n ≤ 2147483647) :
    readSignedYear sign (decimalPadded 4 n ++ '-' :: rest) = .ok (sign * n, '-' :: rest) := by
  have digits := isDigit_of_mem_decimalPadded 4 n
  have stops : ∀ c ∈ ('-' :: rest).head?, isDigit c = false := by
    intro c first
    cases first
    rfl
  simp only [readSignedYear, takeWhile_digits digits stops, dropWhile_digits digits stops]
  obtain ⟨d, ds, text⟩ := List.exists_cons_of_ne_nil (decimalPadded_ne_nil 4 n)
  have value := decimalValue_decimalPadded 4 n
  rw [text] at value ⊢
  simp only [value, if_pos fits]

theorem year_bounds (m : Moment) : -300000 ≤ m.date.year ∧ m.date.year ≤ 301971 := by
  have within := m.isMoment.1
  have first : firstSecond = -8334601228800 := by decide
  have last : lastSecond = 8210266876799 := by decide
  exact Date.year_ofDayNumber 300000 (n := m.seconds / 86400) (by omega) (by omega)

theorem skipBlanks_cons {c : Char} (unblank : isBlank c = false) (rest : List Char) :
    skipBlanks (c :: rest) = c :: rest := by
  simp [skipBlanks, unblank]

theorem readExpandedYear_decimalPadded {year : Nat} (small : year < 10000) (rest : List Char) :
    readExpandedYear (decimalPadded 4 year ++ '-' :: rest) = .ok ((year : Int), '-' :: rest) := by
  have digits := isDigit_of_mem_decimalPadded 4 year
  have read := readNumber_decimalPadded (show 0 < 4 by decide) small ('-' :: rest)
  rw [readExpandedYear, skipBlanks_digits (decimalPadded_ne_nil 4 year) digits]
  obtain ⟨d, ds, text⟩ := List.exists_cons_of_ne_nil (decimalPadded_ne_nil 4 year)
  have digit : isDigit d = true := digits d (text ▸ List.mem_cons_self)
  have unsigned : d ≠ '+' ∧ d ≠ '-' := by
    constructor <;> rintro rfl <;> exact absurd digit (by decide)
  rw [text, List.cons_append] at read ⊢
  split
  · next same => exact absurd (List.head_eq_of_cons_eq same) unsigned.1
  · next same => exact absurd (List.head_eq_of_cons_eq same) unsigned.2
  · rw [read]
    rfl

theorem readExpandedYear_yearText {year : Int} (bounds : -2147483647 ≤ year ∧ year ≤ 2147483647)
    (rest : List Char) :
    readExpandedYear (yearText year ++ '-' :: rest) = .ok (year, '-' :: rest) := by
  by_cases plain : 0 ≤ year ∧ year ≤ 9999
  · have back : (year.toNat : Int) = year := Int.toNat_of_nonneg plain.1
    have small : year.toNat < 10000 := by omega
    rw [yearText, if_pos plain, readExpandedYear_decimalPadded small, back]
  · have sign : (if year < 0 then -1 else 1) * (year.natAbs : Int) = year := by
      split <;> omega
    rw [yearText, if_neg plain, readExpandedYear]
    by_cases negative : year < 0
    · rw [if_pos negative] at sign ⊢
      rw [List.cons_append, skipBlanks_cons (by decide)]
      show readSignedYear (-1) (decimalPadded 4 year.natAbs ++ '-' :: rest) = _
      rw [readSignedYear_decimalPadded rest (by omega), sign]
    · rw [if_neg negative] at sign ⊢
      rw [List.cons_append, skipBlanks_cons (by decide)]
      show readSignedYear 1 (decimalPadded 4 year.natAbs ++ '-' :: rest) = _
      rw [readSignedYear_decimalPadded rest (by omega), sign]

theorem readExpandedDate_dateText {d : Date} (valid : d.isValid = true)
    (bounds : -2147483647 ≤ d.year ∧ d.year ≤ 2147483647) (rest : List Char) :
    readExpandedDate (dateText d ++ rest) = .ok (d, rest) := by
  obtain ⟨month, day⟩ := Date.bounds_of_isValid valid
  simp only [dateText, List.append_assoc, List.cons_append, readExpandedDate,
    readExpandedYear_yearText bounds, readMark_self,
    readBounded_decimalPadded month.1 month.2 (show d.month < 100 by omega),
    readBounded_decimalPadded day.1 day.2 (show d.day < 100 by omega), bind, Except.bind]
  rfl

theorem readExpandedClock_clockText {c : Clock} (ok : c.inRange = true) (rest : List Char) :
    readExpandedClock (clockText c ++ rest) = .ok (c, rest) := by
  simp only [Clock.inRange, Bool.and_eq_true, decide_eq_true_eq] at ok
  simp only [clockText, List.append_assoc, List.cons_append, readExpandedClock, readMark_self,
    readBounded_decimalPadded (Nat.zero_le _) ok.1.1 (show c.hour < 100 by omega),
    readBounded_decimalPadded (Nat.zero_le _) ok.1.2 (show c.minute < 100 by omega),
    readBounded_decimalPadded (Nat.zero_le _) ok.2 (show c.second < 100 by omega), bind, Except.bind]
  rfl

theorem dropSuffix?_append (suffix front : List Char) :
    dropSuffix? suffix (front ++ suffix) = some front := by
  have ends : suffix.isSuffixOf (front ++ suffix) = true := by simp
  have length : (front ++ suffix).length - suffix.length = front.length := by simp
  rw [dropSuffix?, if_pos ends, length, List.take_left' rfl]

theorem readExpanded_whole {m : Moment} (whole : m.fraction = 0) :
    readExpanded m.expandedText = .ok m := by
  have valid := m.date_isValid
  have inRange := m.clock_inRange
  have years := m.year_bounds
  have text : m.expandedText.toList =
      (dateText m.date ++ (' ' :: clockText m.clock)) ++ expandedSuffix := by
    simp [expandedText]
  have digits := isDigit_of_mem_decimalPadded 2 m.clock.hour
  have blank : skipBlanks (' ' :: clockText m.clock) = clockText m.clock := by
    have skipped : skipBlanks (' ' :: clockText m.clock) = skipBlanks (clockText m.clock) := rfl
    rw [skipped, clockText, List.append_assoc,
      skipBlanks_digits (decimalPadded_ne_nil 2 m.clock.hour) digits]
  have clock := readExpandedClock_clockText inRange []
  rw [List.append_nil] at clock
  have shown := m.ofClock_shown
  rw [whole] at shown
  simp only [readExpanded, text, dropSuffix?_append, Option.some_or, readExpandedChars,
    readExpandedDate_dateText valid (show _ ∧ _ by omega), blank, clock, finish, if_true, valid, whenInRange,
    bind, Except.bind]
  exact shown

theorem readExpanded_expandedText {m : Moment} (fits : m.fitsExpanded = true) :
    readExpanded m.expandedText = .ok m := by
  simp only [fitsExpanded, beq_iff_eq] at fits
  exact readExpanded_whole (by rw [fraction, fits, Nat.zero_mod])

theorem expandedText_inj {a b : Moment} (fitsA : a.fitsExpanded = true)
    (fitsB : b.fitsExpanded = true) (same : a.expandedText = b.expandedText) : a = b := by
  have read := readExpanded_expandedText fitsA
  rw [same, readExpanded_expandedText fitsB] at read
  exact (Except.ok.inj read).symm

/-- The compact text shows moments of whole microseconds in full, even where its own reader would refuse the
sign of the year: the date, the clock and the fraction can be read from it one after the other. -/
theorem compactText_inj {a b : Moment} (fitsA : a.fitsCompact = true)
    (fitsB : b.fitsCompact = true) (same : a.compactText = b.compactText) : a = b := by
  have years (m : Moment) : -2147483647 ≤ m.date.year ∧ m.date.year ≤ 2147483647 := by
    have bounds := m.year_bounds
    omega
  have text := congrArg String.toList same
  rw [toList_compactText, toList_compactText] at text
  have dates := readExpandedDate_dateText a.date_isValid (years a)
    ('T' :: (clockText a.clock ++ ('.' :: decimalPadded 6 (a.fraction / 1000) ++ ['Z'])))
  rw [text, readExpandedDate_dateText b.date_isValid (years b), Except.ok.injEq, Prod.mk.injEq,
    List.cons.injEq] at dates
  obtain ⟨date, -, behind⟩ := dates
  have clocks := readClock_clockText a.clock_inRange
    ('.' :: decimalPadded 6 (a.fraction / 1000) ++ ['Z'])
  rw [← behind, readClock_clockText b.clock_inRange, Except.ok.injEq, Prod.mk.injEq] at clocks
  obtain ⟨clock, rest⟩ := clocks
  have fractions := readFraction_micros (micros_shown fitsA).2
  rw [← rest, readFraction_micros (micros_shown fitsB).2, Except.ok.injEq, Prod.mk.injEq,
    (micros_shown fitsA).1, (micros_shown fitsB).1] at fractions
  have shown := a.ofClock?_shown
  rw [← date, ← clock, ← fractions.1, b.ofClock?_shown] at shown
  exact (Option.some.inj shown).symm

end Moment

end GatewayLink
