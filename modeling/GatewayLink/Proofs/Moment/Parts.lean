import GatewayLink.Proofs.Moment.DayCount

/-! The parts of compact texts, and the moments that they denote.
A compact text is read exactly if it is put together from parts that are in range, and what is read is counted from
these parts: days, hours, minutes and seconds, less the offset, and nine digits of the fraction. -/

namespace GatewayLink.Moment

open Text

inductive Separator where
  | upper
  | lower
  | blank

def Separator.mark : Separator → Char
  | upper => 'T'
  | lower => 't'
  | blank => ' '

/-- The end of a compact text: a letter for UTC, or how far the clock is ahead of UTC or behind it. A clock that is
behind may have a hyphen or a minus sign. -/
inductive Zone where
  | upper
  | lower
  | ahead (hour minute : Nat)
  | behind (hour minute : Nat)
  | minus (hour minute : Nat)

namespace Zone

def distanceText (hour minute : Nat) : List Char :=
  decimalPadded 2 hour ++ ':' :: decimalPadded 2 minute

def chars : Zone → List Char
  | upper => ['Z']
  | lower => ['z']
  | ahead hour minute => '+' :: distanceText hour minute
  | behind hour minute => '-' :: distanceText hour minute
  | minus hour minute => '\u2212' :: distanceText hour minute

def offset : Zone → Int
  | upper | lower => 0
  | ahead hour minute => 3600 * hour + 60 * minute
  | behind hour minute | minus hour minute => -(3600 * hour + 60 * minute)

def InRange : Zone → Prop
  | upper | lower => True
  | ahead hour minute | behind hour minute | minus hour minute => hour ≤ 23 ∧ minute ≤ 59

end Zone

/-- The digits of a fraction behind their point. Without digits there is no point. -/
def pointed : List Char → List Char
  | [] => []
  | ds => '.' :: ds

structure Parts where
  date : Date
  separator : Separator
  clock : Clock
  fraction : List Char
  zone : Zone

namespace Parts

variable (p : Parts)

def text : String :=
  String.ofList (dateText p.date ++ p.separator.mark ::
    (clockText p.clock ++ (pointed p.fraction ++ p.zone.chars)))

structure InRange : Prop where
  date : p.date.isValid = true
  year : 0 ≤ p.date.year ∧ p.date.year ≤ 9999
  clock : p.clock.hour ≤ 23 ∧ p.clock.minute ≤ 59 ∧ p.clock.second ≤ 60
  digits : ∀ c ∈ p.fraction, isDigit c = true
  zone : p.zone.InRange

def seconds : Int :=
  86400 * p.date.daysFromEpoch + 3600 * p.clock.hour + 60 * p.clock.minute +
    min p.clock.second 59 - p.zone.offset

/-- Nine digits of the fraction, with zeros for those that are missing; second 60 has a billion more. -/
def nanos : Nat :=
  decimalValue ((p.fraction ++ List.replicate 9 '0').take 9) +
    if p.clock.second = 60 then 1000000000 else 0

end Parts

theorem readMark_eq_ok {mark : Char} {cs rest : List Char} :
    readMark mark cs = .ok rest ↔ cs = mark :: rest := by
  cases cs with
  | nil => simp [readMark]
  | cons c cs =>
    rw [readMark]
    split
    · next same => simp [same]
    · next other => simp [other]

theorem readPair_eq_ok {cs rest : List Char} {n : Nat} :
    readPair cs = .ok (n, rest) ↔ n < 100 ∧ cs = decimalPadded 2 n ++ rest := by
  constructor
  · intro read
    unfold readPair at read
    split at read
    · next a b after =>
      split at read
      · next both =>
        obtain ⟨first, second⟩ := (Bool.and_eq_true _ _).mp both
        cases read
        have digits : ∀ c ∈ [a, b], isDigit c = true := by simp [first, second]
        have value : decimalValue [a, b] = 10 * digitValue a + digitValue b := by simp [decimalValue]
        have padded : decimalPadded 2 (decimalValue [a, b]) = [a, b] :=
          decimalPadded_decimalValue (List.cons_ne_nil a [b]) digits
        rw [← value, padded]
        exact ⟨decimalValue_lt digits, rfl⟩
      · cases read
    · cases read
  · rintro ⟨fits, rfl⟩
    exact readPair_decimalPadded fits rest

theorem decimalPadded_append {century year : Nat} (first : century < 100) (second : year < 100) :
    decimalPadded 2 century ++ decimalPadded 2 year = decimalPadded 4 (100 * century + year) := by
  have length {n : Nat} (fits : n < 100) : (decimalPadded 2 n).length = 2 :=
    length_decimalPadded (by decide) fits
  refine decimalValue_inj ?_ (isDigit_of_mem_decimalPadded _ _) ?_ ?_
  · intro c member
    exact (List.mem_append.mp member).elim (isDigit_of_mem_decimalPadded _ _ _)
      (isDigit_of_mem_decimalPadded _ _ _)
  · have four : (decimalPadded 4 (100 * century + year)).length = 4 :=
      length_decimalPadded (by decide) (show _ < 10000 by omega)
    rw [List.length_append, length first, length second, four]
  · rw [decimalValue_append, decimalValue_decimalPadded, decimalValue_decimalPadded,
      decimalValue_decimalPadded, length second]
    rfl

theorem text_of_readYear {cs rest : List Char} {year : Int}
    (read : readYear cs = .ok (year, rest)) :
    (0 ≤ year ∧ year ≤ 9999) ∧ cs = yearText year ++ rest := by
  obtain ⟨⟨century, cs⟩, first, read⟩ := exists_of_bind_eq_ok read
  obtain ⟨⟨ofCentury, cs⟩, second, read⟩ := exists_of_bind_eq_ok read
  cases read
  obtain ⟨small, rfl⟩ := readPair_eq_ok.mp first
  obtain ⟨small', rfl⟩ := readPair_eq_ok.mp second
  have bounds : (0 : Int) ≤ (100 * century + ofCentury : Nat) ∧
      ((100 * century + ofCentury : Nat) : Int) ≤ 9999 := by omega
  refine ⟨bounds, ?_⟩
  rw [yearText, if_pos bounds, Int.toNat_natCast, ← decimalPadded_append small small',
    List.append_assoc]

theorem text_of_readDate {cs rest : List Char} {d : Date} (read : readDate cs = .ok (d, rest)) :
    d.isValid = true ∧ (0 ≤ d.year ∧ d.year ≤ 9999) ∧ cs = dateText d ++ rest := by
  obtain ⟨⟨year, cs⟩, readYear, read⟩ := exists_of_bind_eq_ok read
  obtain ⟨cs, firstMark, read⟩ := exists_of_bind_eq_ok read
  obtain ⟨⟨month, cs⟩, readMonth, read⟩ := exists_of_bind_eq_ok read
  obtain ⟨cs, secondMark, read⟩ := exists_of_bind_eq_ok read
  obtain ⟨⟨day, cs⟩, readDay, read⟩ := exists_of_bind_eq_ok read
  obtain ⟨_, valid, read⟩ := exists_of_bind_eq_ok read
  cases read
  obtain ⟨bounds, rfl⟩ := text_of_readYear readYear
  obtain rfl := readMark_eq_ok.mp firstMark
  obtain ⟨-, rfl⟩ := readPair_eq_ok.mp readMonth
  obtain rfl := readMark_eq_ok.mp secondMark
  obtain ⟨-, rfl⟩ := readPair_eq_ok.mp readDay
  exact ⟨whenInRange_eq_ok.mp valid, bounds, by simp [dateText]⟩

theorem text_of_readClock {cs rest : List Char} {c : Clock} (read : readClock cs = .ok (c, rest)) :
    cs = clockText c ++ rest := by
  obtain ⟨⟨hour, cs⟩, readHour, read⟩ := exists_of_bind_eq_ok read
  obtain ⟨cs, firstMark, read⟩ := exists_of_bind_eq_ok read
  obtain ⟨⟨minute, cs⟩, readMinute, read⟩ := exists_of_bind_eq_ok read
  obtain ⟨cs, secondMark, read⟩ := exists_of_bind_eq_ok read
  obtain ⟨⟨second, cs⟩, readSecond, read⟩ := exists_of_bind_eq_ok read
  cases read
  obtain ⟨-, rfl⟩ := readPair_eq_ok.mp readHour
  obtain rfl := readMark_eq_ok.mp firstMark
  obtain ⟨-, rfl⟩ := readPair_eq_ok.mp readMinute
  obtain rfl := readMark_eq_ok.mp secondMark
  obtain ⟨-, rfl⟩ := readPair_eq_ok.mp readSecond
  simp [clockText]

theorem readSeparator_eq_ok {cs rest : List Char} :
    readSeparator cs = .ok rest ↔ ∃ separator : Separator, cs = separator.mark :: rest := by
  constructor
  · intro read
    unfold readSeparator at read
    split at read
    · cases read
    · split at read
      · next c after known =>
        cases read
        rcases known with rfl | rfl | rfl
        · exact ⟨.upper, rfl⟩
        · exact ⟨.lower, rfl⟩
        · exact ⟨.blank, rfl⟩
      · cases read
  · rintro ⟨separator, rfl⟩
    cases separator <;> rfl

theorem text_of_readFraction {cs rest : List Char} {n : Nat}
    (read : readFraction cs = .ok (n, rest)) :
    ∃ ds, (∀ c ∈ ds, isDigit c = true) ∧ cs = pointed ds ++ rest ∧ n = fractionNanos ds := by
  unfold readFraction at read
  split at read
  · next after =>
    have split := List.takeWhile_append_dropWhile (p := isDigit) (l := after)
    have digits : ∀ c ∈ after.takeWhile isDigit, isDigit c = true := fun c member =>
      List.mem_takeWhile_imp member
    cases taken : after.takeWhile isDigit with
    | nil => cases after <;> simp [taken] at read
    | cons d ds =>
      rw [taken] at read digits split
      cases read
      exact ⟨d :: ds, digits, congrArg ('.' :: ·) split.symm, rfl⟩
  · cases read
    exact ⟨[], nofun, rfl, rfl⟩

theorem readFraction_pointed {ds rest : List Char} (digits : ∀ c ∈ ds, isDigit c = true)
    (stops : ∀ c ∈ rest.head?, isDigit c = false) (plain : rest.head? ≠ some '.') :
    readFraction (pointed ds ++ rest) = .ok (fractionNanos ds, rest) := by
  cases ds with
  | nil =>
    unfold readFraction
    split
    · next same => exact absurd (congrArg List.head? same) plain
    · rfl
  | cons d ds => exact readFraction_digits (List.cons_ne_nil d ds) digits stops

theorem fractionNanos_eq (ds : List Char) :
    fractionNanos ds = decimalValue ((ds ++ List.replicate 9 '0').take 9) := by
  rw [fractionNanos, List.take_append, List.take_replicate, decimalValue_append_zeros]
  have fill : min (9 - ds.length) 9 = 9 - ds.length := by omega
  rw [fill]
  rfl

theorem nanos_lt {ds : List Char} (digits : ∀ c ∈ ds, isDigit c = true) :
    fractionNanos ds < billion := by
  have nine : ((ds ++ List.replicate 9 '0').take 9).length = 9 := by simp
  have filled : ∀ c ∈ (ds ++ List.replicate 9 '0').take 9, isDigit c = true := by
    intro c member
    rcases List.mem_append.mp (List.mem_of_mem_take member) with given | zero
    · exact digits c given
    · rw [List.eq_of_mem_replicate zero]
      rfl
  have bound := decimalValue_lt filled
  rw [nine] at bound
  rw [fractionNanos_eq]
  exact bound

theorem text_of_readOffsetBody {sign offset : Int} {cs rest : List Char}
    (read : readOffsetBody sign cs = .ok (offset, rest)) :
    ∃ hour minute : Nat, minute ≤ 59 ∧ cs = Zone.distanceText hour minute ++ rest ∧
      offset = sign * (3600 * hour + 60 * minute) := by
  obtain ⟨⟨hour, cs⟩, readHour, read⟩ := exists_of_bind_eq_ok read
  obtain ⟨cs, mark, read⟩ := exists_of_bind_eq_ok read
  obtain ⟨⟨minute, cs⟩, readMinute, read⟩ := exists_of_bind_eq_ok read
  cases read
  unfold readOffsetHour at readHour
  unfold readOffsetMinute at readMinute
  split at readHour
  · cases readHour
  split at readMinute
  · cases readMinute
  obtain ⟨⟨minute', cs'⟩, readMinute, later⟩ := exists_of_bind_eq_ok readMinute
  obtain ⟨_, inRange, same⟩ := exists_of_bind_eq_ok later
  cases same
  obtain ⟨-, rfl⟩ := readPair_eq_ok.mp readHour
  obtain rfl := readMark_eq_ok.mp mark
  obtain ⟨-, rfl⟩ := readPair_eq_ok.mp readMinute
  have small : minute < 60 := of_decide_eq_true (whenInRange_eq_ok.mp inRange)
  exact ⟨hour, minute, Nat.le_of_lt_succ small, by simp [Zone.distanceText], by push_cast; rfl⟩

theorem readOffsetBody_distanceText {hour minute : Nat} (inRange : hour ≤ 23 ∧ minute ≤ 59)
    (sign : Int) (rest : List Char) :
    readOffsetBody sign (Zone.distanceText hour minute ++ rest) =
      .ok (sign * (3600 * hour + 60 * minute : Nat), rest) := by
  have long {n : Nat} (more : List Char) : ¬utf8Length (decimalPadded 2 n ++ more) < 2 := by
    have two := le_length_decimalPadded 2 n
    have whole := length_le_utf8Length (decimalPadded 2 n ++ more)
    rw [List.length_append] at whole
    omega
  have minute_ok : (minute < 60 : Bool) = true := decide_eq_true (Nat.lt_succ_of_le inRange.2)
  simp only [Zone.distanceText, List.append_assoc, List.cons_append, readOffsetBody, readOffsetHour,
    readOffsetMinute, if_neg (long _), readPair_decimalPadded (show hour < 100 by omega),
    readPair_decimalPadded (show minute < 100 by omega), readMark_self, minute_ok, bind, Except.bind]
  rfl

theorem readOffset_chars {zone : Zone} (inRange : zone.InRange) (rest : List Char) :
    readOffset (zone.chars ++ rest) = .ok (zone.offset, rest) := by
  cases zone with
  | upper | lower => rfl
  | ahead hour minute =>
    have body := readOffsetBody_distanceText inRange 1 rest
    rw [one_mul, Nat.cast_add, Nat.cast_mul, Nat.cast_mul] at body
    exact body
  | behind hour minute | minus hour minute =>
    have body := readOffsetBody_distanceText inRange (-1) rest
    rw [neg_one_mul, Nat.cast_add, Nat.cast_mul, Nat.cast_mul] at body
    exact body

theorem Zone.offset_lt {zone : Zone} (inRange : zone.InRange) : zone.offset.natAbs < 86400 := by
  cases zone <;> simp only [Zone.InRange, Zone.offset] at inRange ⊢ <;> omega

theorem Zone.offset_emod (zone : Zone) : zone.offset % 60 = 0 := by
  cases zone <;> simp only [Zone.offset] <;> omega

theorem zone_of_readOffset {offset : Int} {cs rest : List Char}
    (read : readOffset cs = .ok (offset, rest)) (small : offset.natAbs < 86400) :
    ∃ zone : Zone, zone.InRange ∧ cs = zone.chars ++ rest ∧ offset = zone.offset := by
  unfold readOffset at read
  split at read
  · cases read
  · split at read
    · next utc =>
      cases read
      rcases utc with rfl | rfl
      · exact ⟨.upper, trivial, rfl, rfl⟩
      · exact ⟨.lower, trivial, rfl, rfl⟩
    · split at read
      · next plus =>
        obtain ⟨hour, minute, bound, rfl, rfl⟩ := text_of_readOffsetBody read
        subst plus
        exact ⟨.ahead hour minute, ⟨by omega, bound⟩, rfl, one_mul _⟩
      · split at read
        · next sign =>
          obtain ⟨hour, minute, bound, rfl, rfl⟩ := text_of_readOffsetBody read
          rcases sign with rfl | rfl
          · exact ⟨.behind hour minute, ⟨by omega, bound⟩, rfl, neg_one_mul _⟩
          · exact ⟨.minus hour minute, ⟨by omega, bound⟩, rfl, neg_one_mul _⟩
        · cases read

theorem Zone.head_chars (zone : Zone) :
    (∀ c ∈ zone.chars.head?, isDigit c = false) ∧ zone.chars.head? ≠ some '.' := by
  cases zone <;> simp [Zone.chars] <;> decide

theorem finish_eq_ok {cs : List Char} {u : Unit} : finish cs = .ok u ↔ cs = [] := by
  rw [finish]
  split
  · next ended => simp [ended]
  · next more => simp [more]

namespace Parts

variable {p : Parts}

theorem InRange.clock_inRange (inRange : p.InRange) : p.clock.inRange = true := by
  simp only [Clock.inRange, Bool.and_eq_true, decide_eq_true_eq]
  exact ⟨⟨inRange.clock.1, inRange.clock.2.1⟩, inRange.clock.2.2⟩

theorem InRange.ofClock? (inRange : p.InRange) :
    Moment.ofClock? p.date p.clock (fractionNanos p.fraction) p.zone.offset =
      ofUnix? p.seconds p.nanos := by
  have nanos : (if p.clock.second = 60 then fractionNanos p.fraction + billion
      else fractionNanos p.fraction) = p.nanos := by
    rw [Parts.nanos, ← fractionNanos_eq]
    split <;> rfl
  rw [Moment.ofClock?, nanos, Date.dayNumber_eq_daysFromEpoch inRange.date]
  rfl

theorem InRange.day_bounds (inRange : p.InRange) :
    -719529 ≤ p.seconds / 86400 ∧ p.seconds / 86400 ≤ 2932897 := by
  obtain ⟨first, last⟩ := Date.dayNumber_bounds inRange.date inRange.year
  rw [Date.dayNumber_eq_daysFromEpoch inRange.date] at first last
  obtain ⟨hour, minute, second⟩ := inRange.clock
  have offset := Zone.offset_lt inRange.zone
  rw [seconds]
  omega

theorem InRange.isMoment (inRange : p.InRange) : IsMoment p.seconds p.nanos := by
  have days := inRange.day_bounds
  have earliest : firstSecond ≤ 86400 * (-719529) := by decide
  have latest : 86400 * 2932898 ≤ lastSecond := by decide
  have fraction := nanos_lt inRange.digits
  rw [fractionNanos_eq] at fraction
  refine ⟨⟨by omega, by omega⟩, ?_⟩
  rw [nanos]
  split
  · next leap =>
    have minutes := p.zone.offset_emod
    simp only [billion] at fraction ⊢
    rw [seconds, leap]
    omega
  · exact .inl fraction

/-- The moment that the parts denote. -/
def InRange.moment (inRange : p.InRange) : Moment := ⟨p.seconds, p.nanos, inRange.isMoment⟩

theorem InRange.readCompact_text (inRange : p.InRange) : readCompact p.text = .ok inRange.moment := by
  have separator (rest : List Char) : readSeparator (p.separator.mark :: rest) = .ok rest :=
    readSeparator_eq_ok.mpr ⟨p.separator, rfl⟩
  obtain ⟨stops, plain⟩ := p.zone.head_chars
  have offset := readOffset_chars inRange.zone []
  rw [List.append_nil] at offset
  have small : decide (p.zone.offset.natAbs < 86400) = true :=
    decide_eq_true (Zone.offset_lt inRange.zone)
  have shown : ofClock p.date p.clock (fractionNanos p.fraction) p.zone.offset =
      .ok inRange.moment := by
    unfold ofClock
    rw [inRange.ofClock?, ofUnix?, dif_pos inRange.isMoment, InRange.moment]
  rw [readCompact, readCompactChars, text, String.toList_ofList, if_neg (long_shown _ _ _ _),
    readDate_dateText inRange.date inRange.year]
  simp only [separator, readClock_clockText inRange.clock_inRange,
    readFraction_pointed inRange.digits stops plain, inRange.clock_inRange, offset, finish, if_true,
    small, whenInRange, bind, Except.bind]
  exact shown

/-- Every text that is read is put together from parts in range. -/
theorem exists_of_readCompact {text : String} {m : Moment} (read : readCompact text = .ok m) :
    ∃ p : Parts, p.InRange ∧ p.text = text := by
  unfold readCompact readCompactChars at read
  split at read
  · cases read
  · obtain ⟨⟨date, cs⟩, readDate, read⟩ := exists_of_bind_eq_ok read
    obtain ⟨cs', readSeparator, read⟩ := exists_of_bind_eq_ok read
    obtain ⟨⟨clock, behindClock⟩, readClock, read⟩ := exists_of_bind_eq_ok read
    obtain ⟨⟨fraction, behindFraction⟩, readFraction, read⟩ := exists_of_bind_eq_ok read
    obtain ⟨_, clockInRange, read⟩ := exists_of_bind_eq_ok read
    obtain ⟨⟨offset, behindZone⟩, readOffset, read⟩ := exists_of_bind_eq_ok read
    obtain ⟨_, ended, read⟩ := exists_of_bind_eq_ok read
    obtain ⟨_, small, -⟩ := exists_of_bind_eq_ok read
    obtain ⟨valid, year, whole⟩ := text_of_readDate readDate
    obtain ⟨separator, rfl⟩ := readSeparator_eq_ok.mp readSeparator
    obtain rfl := text_of_readClock readClock
    obtain ⟨ds, digits, rfl, -⟩ := text_of_readFraction readFraction
    obtain ⟨zone, inZone, rfl, -⟩ :=
      zone_of_readOffset readOffset (of_decide_eq_true (whenInRange_eq_ok.mp small))
    obtain rfl := finish_eq_ok.mp ended
    have clockInRange := whenInRange_eq_ok.mp clockInRange
    simp only [Clock.inRange, Bool.and_eq_true, decide_eq_true_eq] at clockInRange
    refine ⟨⟨date, separator, clock, ds, zone⟩,
      ⟨valid, year, ⟨clockInRange.1.1, clockInRange.1.2, clockInRange.2⟩, digits, inZone⟩, ?_⟩
    rw [List.append_nil] at whole
    rw [Parts.text, ← whole, String.ofList_toList]

end Parts

/-- A compact text is read exactly if it is put together from parts that are in range, and as what they denote.
Texts that denote the same moment, each in its own way, are read alike. -/
theorem readCompact_denotes :
    (∀ text m, readCompact text = .ok m ↔
      ∃ p : Parts, p.InRange ∧ p.text = text ∧ m.seconds = p.seconds ∧ m.nanos = p.nanos) ∧
    (∀ p : Parts, p.InRange → ∃ m, readCompact p.text = .ok m) ∧
    ∀ p q : Parts, p.InRange → q.InRange → p.seconds = q.seconds → p.nanos = q.nanos →
      readCompact p.text = readCompact q.text := by
  refine ⟨fun text m => ⟨fun read => ?_, ?_⟩, fun p inRange => ⟨_, inRange.readCompact_text⟩, ?_⟩
  · obtain ⟨p, inRange, rfl⟩ := Parts.exists_of_readCompact read
    obtain rfl := Except.ok.inj (inRange.readCompact_text.symm.trans read)
    exact ⟨p, inRange, rfl, rfl, rfl⟩
  · rintro ⟨p, inRange, rfl, seconds, nanos⟩
    have same : inRange.moment = m := ext_unix seconds.symm nanos.symm
    rw [inRange.readCompact_text, same]
  · intro p q first second seconds nanos
    have same : first.moment = second.moment := ext_unix seconds nanos
    rw [first.readCompact_text, second.readCompact_text, same]

/-- The leap second that ended 2016, as it was shown in the zones of Kolkata and of Greenwich. -/
theorem readCompact_denotes_leapSecond :
    let m : Moment := ⟨1483228799, 1500000000, by decide⟩
    readCompact "2017-01-01t05:29:60.5+05:30" = .ok m ∧
      readCompact "2016-12-31 23:59:60.5000000009Z" = .ok m := by
  intro m
  let ahead : Parts := ⟨⟨2017, 1, 1⟩, .lower, ⟨5, 29, 60⟩, ['5'], .ahead 5 30⟩
  let greenwich : Parts := ⟨⟨2016, 12, 31⟩, .blank, ⟨23, 59, 60⟩, "5000000009".toList, .upper⟩
  have first : ahead.InRange :=
    ⟨by decide, by decide, by decide, List.all_eq_true.mp (by decide), ⟨by decide, by decide⟩⟩
  have second : greenwich.InRange :=
    ⟨by decide, by decide, by decide, List.all_eq_true.mp (by decide), trivial⟩
  have same : readCompact ahead.text = readCompact greenwich.text :=
    readCompact_denotes.2.2 _ _ first second (by decide +kernel) (by decide)
  have read : readCompact greenwich.text = .ok m :=
    (readCompact_denotes.1 _ m).mpr ⟨greenwich, second, rfl, by decide +kernel, by decide⟩
  have aheadText : ahead.text = "2017-01-01t05:29:60.5+05:30" := by decide +kernel
  have greenwichText : greenwich.text = "2016-12-31 23:59:60.5000000009Z" := by decide +kernel
  rw [← aheadText, ← greenwichText]
  exact ⟨same.trans read, read⟩

end GatewayLink.Moment
