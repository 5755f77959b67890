import GatewayLink.Binary64.Basic
import GatewayLink.Moment.Calendar
import GatewayLink.Text.Digits
import GatewayLink.Text.Hex

/-! TOML values, and the readers of those that are single words: numbers, booleans, dates and times. Each
reader takes a value off the front of a text. Integers are signed 64-bit words; a float too large for a
finite number is refused. -/

namespace GatewayLink.Toml

open Text

inductive Value where
  | text (value : String)
  | integer (value : Int)
  | float (value : Binary64)
  | boolean (value : Bool)
  | moment (text : String)
  | array (items : List Value)
  | table (entries : List (String × Value))

abbrev Entries := List (String × Value)

def Entries.get? (key : String) (entries : Entries) : Option Value := entries.lookup key

/-- Digits that may be parted by single underscores, without them. The first digit stands before. -/
def moreDigits (isDigit : Char → Bool) : List Char → List Char × List Char
  | '_' :: c :: rest =>
    if isDigit c then
      let (ds, rest) := moreDigits isDigit rest
      (c :: ds, rest)
    else ([], '_' :: c :: rest)
  | c :: rest =>
    if isDigit c then
      let (ds, rest) := moreDigits isDigit rest
      (c :: ds, rest)
    else ([], c :: rest)
  | [] => ([], [])

def digitRun? (isDigit : Char → Bool) : List Char → Option (List Char × List Char)
  | c :: rest =>
    if isDigit c then
      let (ds, rest) := moreDigits isDigit rest
      some (c :: ds, rest)
    else none
  | [] => none

def sign : List Char → Bool × List Char
  | '+' :: rest => (false, rest)
  | '-' :: rest => (true, rest)
  | rest => (false, rest)

def decimalRun? : List Char → Option (List Char × List Char)
  | '0' :: rest => some (['0'], rest)
  | cs => digitRun? isDigit cs

def inInt64 (i : Int) : Option Int :=
  if -0x8000000000000000 ≤ i ∧ i < 0x8000000000000000 then some i else none

def radixInteger? (base : Nat) (cs : List Char) : Option (Int × List Char) :=
  let digit? (c : Char) : Option Nat := (hexDigit? c).filter (· < base)
  (digitRun? (fun c => (digit? c).isSome) cs).bind fun (ds, rest) =>
    (inInt64 (ds.foldl (fun n c => base * n + (digit? c).getD 0) 0 : Nat)).map (·, rest)

def integer? : List Char → Option (Int × List Char)
  | '0' :: 'x' :: rest => radixInteger? 16 rest
  | '0' :: 'o' :: rest => radixInteger? 8 rest
  | '0' :: 'b' :: rest => radixInteger? 2 rest
  | cs =>
    let (negative, cs) := sign cs
    (decimalRun? cs).bind fun (ds, rest) =>
      let n : Int := decimalValue ds
      (inInt64 (if negative then -n else n)).map (·, rest)

/-- The number nearest to `n * 10 ^ scale`. Far outside the range of finite numbers only the direction
counts. -/
def nearestFloat (negative : Bool) (n : Nat) (scale : Int) : Binary64 :=
  let lead := scale + (decimal n).length
  if n = 0 ∨ lead < -400 then .ofMagnitudeBits negative 0
  else if 400 < lead then .ofMagnitudeBits negative Binary64.infinityBits
  else .ofRatio negative (n * Nat.pow 10 scale.toNat) (Nat.pow 10 (-scale).toNat)

def exponent? : List Char → Option (Int × List Char)
  | c :: cs =>
    if c = 'e' ∨ c = 'E' then
      let (negative, cs) := sign cs
      (digitRun? isDigit cs).map fun (ds, rest) =>
        ((if negative then -(decimalValue ds : Int) else decimalValue ds), rest)
    else none
  | [] => none

def fraction? : List Char → Option (List Char × List Char)
  | '.' :: cs => digitRun? isDigit cs
  | _ => none

def floatDigits? (negative : Bool) (cs : List Char) : Option (Binary64 × List Char) :=
  (decimalRun? cs).bind fun (whole, cs) =>
    match fraction? cs with
    | some (ds, cs) =>
      let (e, cs) := (exponent? cs).getD (0, cs)
      some (nearestFloat negative (decimalValue (whole ++ ds)) (e - ds.length), cs)
    | none =>
      (exponent? cs).map fun (e, cs) => (nearestFloat negative (decimalValue whole) e, cs)

def specialFloat? (negative : Bool) : List Char → Option (Binary64 × List Char)
  | 'i' :: 'n' :: 'f' :: rest => some (.ofMagnitudeBits negative Binary64.infinityBits, rest)
  | 'n' :: 'a' :: 'n' :: rest =>
    some (.ofMagnitudeBits negative (Binary64.infinityBits + Binary64.hiddenBit / 2), rest)
  | _ => none

def positiveInfinity : Binary64 := .ofMagnitudeBits false Binary64.infinityBits

def float? (cs : List Char) : Option (Binary64 × List Char) :=
  let (negative, unsigned) := sign cs
  match floatDigits? negative unsigned with
  | some (x, rest) => if x = positiveInfinity then none else some (x, rest)
  | none => specialFloat? negative unsigned

def twoDigits? : List Char → Option (Nat × List Char)
  | a :: b :: rest =>
    if isDigit a && isDigit b then some (10 * digitValue a + digitValue b, rest) else none
  | _ => none

def mark? (mark : Char) : List Char → Option (List Char)
  | c :: rest => if c = mark then some rest else none
  | [] => none

def bounded? (high : Nat) (cs : List Char) : Option (List Char) :=
  (twoDigits? cs).bind fun (n, rest) => if n ≤ high then some rest else none

def date? (cs : List Char) : Option (List Char) := do
  let (century, cs) ← twoDigits? cs
  let (year, cs) ← twoDigits? cs
  let cs ← mark? '-' cs
  let (month, cs) ← twoDigits? cs
  let cs ← mark? '-' cs
  let (day, cs) ← twoDigits? cs
  if Date.isValid ⟨(100 * century + year : Nat), month, day⟩ then some cs else none

def secondFraction (cs : List Char) : List Char :=
  match cs with
  | '.' :: c :: rest => if isDigit c then rest.dropWhile isDigit else cs
  | _ => cs

def time? (cs : List Char) : Option (List Char) := do
  let cs ← bounded? 23 cs
  let cs ← mark? ':' cs
  let cs ← bounded? 59 cs
  let cs ← mark? ':' cs
  let cs ← bounded? 60 cs
  return secondFraction cs

def offset? : List Char → Option (List Char)
  | c :: cs =>
    if c = 'Z' ∨ c = 'z' then some cs
    else if c = '+' ∨ c = '-' then do
      let cs ← bounded? 23 cs
      let cs ← mark? ':' cs
      bounded? 59 cs
    else none
  | [] => none

def timeAfterDate? : List Char → Option (List Char)
  | c :: cs =>
    if c = 'T' ∨ c = 't' ∨ c = ' ' then (time? cs).map fun cs => (offset? cs).getD cs else none
  | [] => none

def moment? (cs : List Char) : Option (String × List Char) :=
  let rest? :=
    match date? cs with
    | some rest => some ((timeAfterDate? rest).getD rest)
    | none => time? cs
  rest?.map fun rest => (String.ofList (cs.take (cs.length - rest.length)), rest)

def word? (cs : List Char) : Option (Value × List Char) :=
  match cs with
  | 't' :: 'r' :: 'u' :: 'e' :: rest => some (.boolean true, rest)
  | 'f' :: 'a' :: 'l' :: 's' :: 'e' :: rest => some (.boolean false, rest)
  | _ =>
    match moment? cs, float? cs with
    | some (text, rest), _ => some (.moment text, rest)
    | none, some (x, rest) => some (.float x, rest)
    | none, none => (integer? cs).map fun (i, rest) => (.integer i, rest)

end GatewayLink.Toml
