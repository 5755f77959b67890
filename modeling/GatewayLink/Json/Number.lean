import GatewayLink.Binary64.Shortest
import GatewayLink.Text.Digits

/-! JSON numbers.
A literal without fraction and exponent is an integer if a 64-bit word holds it; every other literal is a
binary64 number. Its digits are collected into a 64-bit word until one no longer fits; the word is
converted and scaled by the power of ten that is left. So a literal is read in two roundings, not one.
A literal too large for a finite number is refused. -/

namespace GatewayLink.Json

open Text

inductive Number where
  | integer (value : Int)
  | float (value : Binary64)
  deriving DecidableEq, Inhabited

/-- The parts of a number literal; digit runs are kept as written. -/
structure Literal where
  negative : Bool
  whole : List Char
  fraction : Option (List Char)
  exponent : Option Int

def wordLimit : Nat := 0x10000000000000000

/-- Continues `value` with digits as long as the result fits a 64-bit word, and leaves the others. -/
def takeDigits (value : Nat) : List Char → Nat × List Char
  | [] => (value, [])
  | c :: rest =>
    let next := 10 * value + digitValue c
    if next < wordLimit then takeDigits next rest else (value, c :: rest)

def powerOfTen (n : Nat) : Binary64 := Binary64.ofNat (Nat.pow 10 n)

/-- `x * 10 ^ e` in steps that each stay within the range of finite powers of ten. -/
def scaleByTen (x : Binary64) (e : Int) : Option Binary64 :=
  if e.natAbs ≤ 308 then
    if 0 ≤ e then
      let product := x.mul (powerOfTen e.toNat)
      if product.isFinite then some product else none
    else some (x.div (powerOfTen e.natAbs))
  else if x.isZero then some x
  else if 0 < e then none
  else scaleByTen (x.div (powerOfTen 308)) (e + 308)
termination_by e.natAbs
decreasing_by omega

namespace Literal

def isPlain (l : Literal) : Bool := l.fraction.isNone && l.exponent.isNone

def float? (l : Literal) : Option Binary64 :=
  let (word, dropped) := takeDigits 0 l.whole
  let fraction := l.fraction.getD []
  let (word, unread) := takeDigits word fraction
  let used := fraction.length - unread.length
  let scale : Int := l.exponent.getD 0 + dropped.length - used
  (scaleByTen (Binary64.ofNat word) scale).map fun x => if l.negative then x.neg else x

def number? (l : Literal) : Option Number :=
  match l.isPlain, l.negative, takeDigits 0 l.whole with
  | true, false, (word, []) => some (.integer word)
  | true, true, (word, []) =>
    if 0 < word ∧ word ≤ 0x8000000000000000 then some (.integer (-word))
    else some (.float (Binary64.ofNat word).neg)
  | _, _, _ => l.float?.map .float

def exponentOf? : List Char → Option (Option Int)
  | [] => some none
  | c :: rest =>
    let (sign, ds) : Int × List Char :=
      match rest with
      | '-' :: ds => (-1, ds)
      | '+' :: ds => (1, ds)
      | ds => (1, ds)
    if (c = 'e' ∨ c = 'E') ∧ ds ≠ [] ∧ ds.all isDigit then some (some (sign * decimalValue ds))
    else none

def ofWord? (word : List Char) : Option Literal :=
  let (negative, unsigned) :=
    match word with
    | '-' :: rest => (true, rest)
    | rest => (false, rest)
  let whole := unsigned.takeWhile isDigit
  if whole = [] ∨ (whole.head? = some '0' ∧ whole ≠ ['0']) then none
  else
    match unsigned.dropWhile isDigit with
    | '.' :: rest =>
      let fraction := rest.takeWhile isDigit
      if fraction = [] then none
      else (exponentOf? (rest.dropWhile isDigit)).map fun e => ⟨negative, whole, some fraction, e⟩
    | rest => (exponentOf? rest).map fun e => ⟨negative, whole, none, e⟩

end Literal

namespace Number

/-- A decimal number in plain notation when its leading exponent is from -5 to 15, with at least one
digit after the point, and in scientific notation otherwise. -/
def decimalText (d : Decimal) : List Char :=
  if -5 ≤ d.exponent ∧ d.exponent ≤ 15 then
    let (whole, fraction) := d.parts
    whole ++ '.' :: (if fraction = [] then ['0'] else fraction)
  else
    let sign := if d.exponent < 0 then '-' else '+'
    let power := 'e' :: sign :: decimal d.exponent.natAbs
    match d.digits with
    | [] => []
    | [single] => single :: power
    | first :: rest => first :: '.' :: rest ++ power

def floatText (x : Binary64) : List Char :=
  if !x.isFinite then "null".toList
  else
    let magnitude := if x.isZero then "0.0".toList else decimalText x.shortest
    if x.isNegative then '-' :: magnitude else magnitude

def integerText (i : Int) : List Char :=
  if i < 0 then '-' :: decimal i.natAbs else decimal i.natAbs

def text : Number → List Char
  | integer i => integerText i
  | float x => floatText x

def toBinary64 : Number → Binary64
  | integer i => Binary64.ofInt i
  | float x => x

end Number

end GatewayLink.Json
