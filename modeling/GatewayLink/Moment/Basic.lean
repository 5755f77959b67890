import GatewayLink.Moment.Calendar
import GatewayLink.Text.Digits

/-! Moments of UTC.
A moment counts seconds from 1970-01-01 and nanoseconds of the second. A leap second is the second
before it with a billion nanoseconds more, so it only follows second 59 of a minute. -/

namespace GatewayLink

namespace Moment

def billion : Nat := 1000000000

def firstSecond : Int := 86400 * Date.dayNumber ⟨-262143, 1, 1⟩

def lastSecond : Int := 86400 * Date.dayNumber ⟨262142, 12, 31⟩ + 86399

def IsMoment (seconds : Int) (nanos : Nat) : Prop :=
  (firstSecond ≤ seconds ∧ seconds ≤ lastSecond) ∧
    (nanos < billion ∨ (nanos < 2 * billion ∧ seconds % 60 = 59))

instance (seconds : Int) (nanos : Nat) : Decidable (IsMoment seconds nanos) :=
  inferInstanceAs (Decidable (_ ∧ _))

inductive Fault where
  | outOfRange
  | invalidCharacters
  | prematureEnd
  | trailingInput
  | missingSuffix
  deriving DecidableEq

def Fault.message : Fault → String
  | outOfRange => "input is out of range"
  | invalidCharacters => "input contains invalid characters"
  | prematureEnd => "premature end of input"
  | trailingInput => "trailing input"
  | missingSuffix => "expected GMT or UTC suffix"

end Moment

structure Moment where
  seconds : Int
  nanos : Nat
  isMoment : Moment.IsMoment seconds nanos
  deriving DecidableEq

namespace Moment

def ofUnix? (seconds : Int) (nanos : Nat) : Option Moment :=
  if h : IsMoment seconds nanos then some ⟨seconds, nanos, h⟩ else none

@[ext] theorem ext_unix {a b : Moment} (seconds : a.seconds = b.seconds)
    (nanos : a.nanos = b.nanos) : a = b := by
  cases a; cases b; simp_all

theorem ofUnix?_self (m : Moment) : ofUnix? m.seconds m.nanos = some m := by
  simp [ofUnix?, m.isMoment]

structure Clock where
  hour : Nat
  minute : Nat
  second : Nat
  deriving DecidableEq

def isLeapSecond (m : Moment) : Bool := billion ≤ m.nanos

def date (m : Moment) : Date := Date.ofDayNumber (m.seconds / 86400)

def clock (m : Moment) : Clock :=
  let s := (m.seconds % 86400).toNat
  ⟨s / 3600, s / 60 % 60, s % 60 + (if m.isLeapSecond then 1 else 0)⟩

def fraction (m : Moment) : Nat := m.nanos % billion

/-- The moment shown by a date, a clock and a fraction, at an offset in seconds east of Greenwich.
Second 60 is the leap second after second 59. -/
def ofClock? (d : Date) (c : Clock) (fraction : Nat) (offset : Int) : Option Moment :=
  ofUnix? (86400 * d.dayNumber + 3600 * c.hour + 60 * c.minute + min c.second 59 - offset)
    (if c.second = 60 then fraction + billion else fraction)

/-- Years 0 to 9999 have four digits, the others a sign and at least four. -/
def yearText (year : Int) : List Char :=
  if 0 ≤ year ∧ year ≤ 9999 then Text.decimalPadded 4 year.toNat
  else (if year < 0 then '-' else '+') :: Text.decimalPadded 4 year.natAbs

def dateText (d : Date) : List Char :=
  yearText d.year ++ '-' :: Text.decimalPadded 2 d.month ++ '-' :: Text.decimalPadded 2 d.day

def clockText (c : Clock) : List Char :=
  Text.decimalPadded 2 c.hour ++ ':' :: Text.decimalPadded 2 c.minute ++ ':' ::
    Text.decimalPadded 2 c.second

/-- The shortest of no, three, six and nine digits that shows the fraction exactly. -/
def fractionText (nanos : Nat) : List Char :=
  if nanos = 0 then []
  else if nanos % 1000000 = 0 then '.' :: Text.decimalPadded 3 (nanos / 1000000)
  else if nanos % 1000 = 0 then '.' :: Text.decimalPadded 6 (nanos / 1000)
  else '.' :: Text.decimalPadded 9 nanos

def exactText (m : Moment) : String :=
  String.ofList (dateText m.date ++ 'T' :: clockText m.clock ++ fractionText m.fraction ++
    "+00:00".toList)

end Moment

end GatewayLink
