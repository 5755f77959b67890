import GatewayLink.Moment.Basic
import GatewayLink.Text.Blank

/-! The two written layouts of moments.
The compact one is `2013-03-31T16:21:17.528002Z`, holds whole microseconds and may be read with any
offset. The expanded one is `2014-01-12 08:59:28 GMT` and holds whole seconds. Readers work from left to
right and report the first thing that is wrong. -/

namespace GatewayLink.Moment

open Text

def utf8Length (cs : List Char) : Nat := cs.foldl (fun n c => n + c.utf8Size) 0

def readMark (mark : Char) : List Char → Except Fault (List Char)
  | [] => .error .prematureEnd
  | c :: rest => if c = mark then .ok rest else .error .invalidCharacters

def readPair : List Char → Except Fault (Nat × List Char)
  | a :: b :: rest =>
    if isDigit a && isDigit b then .ok (10 * digitValue a + digitValue b, rest)
    else .error .invalidCharacters
  | _ => .error .invalidCharacters

def readYear (cs : List Char) : Except Fault (Int × List Char) := do
  let (century, cs) ← readPair cs
  let (year, cs) ← readPair cs
  return ((100 * century + year : Nat), cs)

def whenInRange (ok : Bool) : Except Fault Unit :=
  if ok then .ok () else .error .outOfRange

/-- Nine digits count nanoseconds; fewer are filled up with zeros and more are passed over. -/
def fractionNanos (ds : List Char) : Nat :=
  decimalValue (ds.take 9) * Nat.pow 10 (9 - ds.length)

def readFraction : List Char → Except Fault (Nat × List Char)
  | '.' :: cs =>
    match cs.takeWhile isDigit, cs with
    | [], [] => .error .prematureEnd
    | [], _ => .error .invalidCharacters
    | ds, _ => .ok (fractionNanos ds, cs.dropWhile isDigit)
  | cs => .ok (0, cs)

def readOffsetHour (cs : List Char) : Except Fault (Nat × List Char) :=
  if utf8Length cs < 2 then .error .prematureEnd else readPair cs

def readOffsetMinute (cs : List Char) : Except Fault (Nat × List Char) :=
  if utf8Length cs < 2 then .error .prematureEnd
  else do
    let (minute, rest) ← readPair cs
    whenInRange (minute < 60)
    return (minute, rest)

def readOffsetBody (sign : Int) (cs : List Char) : Except Fault (Int × List Char) := do
  let (hour, cs) ← readOffsetHour cs
  let cs ← readMark ':' cs
  let (minute, cs) ← readOffsetMinute cs
  return (sign * (3600 * hour + 60 * minute : Nat), cs)

def readOffset : List Char → Except Fault (Int × List Char)
  | [] => .error .prematureEnd
  | c :: cs =>
    if c = 'Z' ∨ c = 'z' then .ok (0, cs)
    else if c = '+' then readOffsetBody 1 cs
    else if c = '-' ∨ c = '\u2212' then readOffsetBody (-1) cs
    else .error .invalidCharacters

def readDate (cs : List Char) : Except Fault (Date × List Char) := do
  let (year, cs) ← readYear cs
  let cs ← readMark '-' cs
  let (month, cs) ← readPair cs
  let cs ← readMark '-' cs
  let (day, cs) ← readPair cs
  whenInRange (Date.isValid ⟨year, month, day⟩)
  return (⟨year, month, day⟩, cs)

def readSeparator : List Char → Except Fault (List Char)
  | [] => .error .invalidCharacters
  | c :: rest => if c = 'T' ∨ c = 't' ∨ c = ' ' then .ok rest else .error .invalidCharacters

def readClock (cs : List Char) : Except Fault (Clock × List Char) := do
  let (hour, cs) ← readPair cs
  let cs ← readMark ':' cs
  let (minute, cs) ← readPair cs
  let cs ← readMark ':' cs
  let (second, cs) ← readPair cs
  return (⟨hour, minute, second⟩, cs)

def Clock.inRange (c : Clock) : Bool := c.hour ≤ 23 && c.minute ≤ 59 && c.second ≤ 60

def finish (cs : List Char) : Except Fault Unit :=
  if cs = [] then .ok () else .error .trailingInput

def ofClock (d : Date) (c : Clock) (fraction : Nat) (offset : Int) : Except Fault Moment :=
  match ofClock? d c fraction offset with
  | some m => .ok m
  | none => .error .outOfRange

def readCompactChars (cs : List Char) : Except Fault Moment :=
  if utf8Length cs < 19 then .error .prematureEnd
  else do
    let (date, cs) ← readDate cs
    let cs ← readSeparator cs
    let (clock, cs) ← readClock cs
    let (fraction, cs) ← readFraction cs
    whenInRange clock.inRange
    let (offset, cs) ← readOffset cs
    finish cs
    whenInRange (offset.natAbs < 86400)
    ofClock date clock fraction offset

def readCompact (text : String) : Except Fault Moment := readCompactChars text.toList

def fitsCompact (m : Moment) : Bool := m.nanos % 1000 == 0

def compactText (m : Moment) : String :=
  String.ofList (dateText m.date ++ 'T' :: clockText m.clock ++ '.' ::
    decimalPadded 6 (m.fraction / 1000) ++ ['Z'])

def readNumber (width : Nat) (cs : List Char) : Except Fault (Nat × List Char) :=
  let cs := skipBlanks cs
  match (cs.take width).takeWhile isDigit, cs with
  | [], [] => .error .prematureEnd
  | [], _ => .error .invalidCharacters
  | ds, _ => .ok (decimalValue ds, cs.drop ds.length)

def readBounded (low high : Nat) (cs : List Char) : Except Fault (Nat × List Char) := do
  let (n, cs) ← readNumber 2 cs
  whenInRange (low ≤ n && n ≤ high)
  return (n, cs)

/-- A year after a sign has any number of digits, as long as 32 bits hold it. -/
def readSignedYear (sign : Int) (cs : List Char) : Except Fault (Int × List Char) :=
  match cs.takeWhile isDigit, cs with
  | [], [] => .error .prematureEnd
  | [], _ => .error .invalidCharacters
  | ds, _ =>
    let year := sign * decimalValue ds
    if -2147483648 ≤ year ∧ year ≤ 2147483647 then .ok (year, cs.dropWhile isDigit)
    else .error .outOfRange

def readExpandedYear (cs : List Char) : Except Fault (Int × List Char) :=
  match skipBlanks cs with
  | '+' :: rest => readSignedYear 1 rest
  | '-' :: rest => readSignedYear (-1) rest
  | rest => (readNumber 4 rest).map fun (year, rest) => ((year : Int), rest)

def readExpandedDate (cs : List Char) : Except Fault (Date × List Char) := do
  let (year, cs) ← readExpandedYear cs
  let cs ← readMark '-' cs
  let (month, cs) ← readBounded 1 12 cs
  let cs ← readMark '-' cs
  let (day, cs) ← readBounded 1 31 cs
  return (⟨year, month, day⟩, cs)

def readExpandedClock (cs : List Char) : Except Fault (Clock × List Char) := do
  let (hour, cs) ← readBounded 0 23 cs
  let cs ← readMark ':' cs
  let (minute, cs) ← readBounded 0 59 cs
  let cs ← readMark ':' cs
  let (second, cs) ← readBounded 0 60 cs
  return (⟨hour, minute, second⟩, cs)

def readExpandedChars (cs : List Char) : Except Fault Moment := do
  let (date, cs) ← readExpandedDate cs
  let (clock, cs) ← readExpandedClock (skipBlanks cs)
  finish cs
  whenInRange date.isValid
  ofClock date clock 0 0

def expandedSuffix : List Char := " GMT".toList

def alternativeSuffix : List Char := " UTC".toList

def dropSuffix? (suffix cs : List Char) : Option (List Char) :=
  if suffix.isSuffixOf cs then some (cs.take (cs.length - suffix.length)) else none

def readExpanded (text : String) : Except Fault Moment :=
  let cs := text.toList
  match (dropSuffix? expandedSuffix cs).or (dropSuffix? alternativeSuffix cs) with
  | some front => readExpandedChars front
  | none => .error .missingSuffix

/-- Whole seconds fit the expanded layout, leap seconds do not. -/
def fitsExpanded (m : Moment) : Bool := m.nanos == 0

def expandedText (m : Moment) : String :=
  String.ofList (dateText m.date ++ ' ' :: clockText m.clock ++ expandedSuffix)

end GatewayLink.Moment
