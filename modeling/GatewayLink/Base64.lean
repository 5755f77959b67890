import GatewayLink.Text.Digits

/-! Base64 with the standard alphabet.
`encode` writes octets in groups of four symbols and pads the last group with `=`. `decode` reads what
`encode` writes with any part of that padding missing, and nothing else: the last group of one to four
symbols is read on its own, since only there padding may stand and unused bits may occur. -/

namespace GatewayLink.Base64

/-- Why a text is not base64; positions count octets from the start of the text. -/
inductive Fault where
  | symbol (octet : UInt8) (position : Nat)
  | length (symbols : Nat)
  | lastSymbol (octet : UInt8) (position : Nat)
  deriving DecidableEq

def Fault.message : Fault → String
  | symbol octet position => "Invalid symbol " ++ toString octet.toNat ++ ", offset " ++
      toString position ++ "."
  | length symbols => "Invalid input length: " ++ toString symbols
  | lastSymbol octet position => "Invalid last symbol " ++ toString octet.toNat ++ ", offset " ++
      toString position ++ "."

def padding : UInt8 := 61

def symbolOf (v : Nat) : Char :=
  if v < 26 then Char.ofNat (65 + v)
  else if v < 52 then Char.ofNat (71 + v)
  else if v < 62 then Char.ofNat (v - 4)
  else if v = 62 then '+'
  else '/'

def valueOf? (octet : UInt8) : Option Nat :=
  let n := octet.toNat
  if 65 ≤ n ∧ n ≤ 90 then some (n - 65)
  else if 97 ≤ n ∧ n ≤ 122 then some (n - 71)
  else if 48 ≤ n ∧ n ≤ 57 then some (n + 4)
  else if n = 43 then some 62
  else if n = 47 then some 63
  else none

def encode : List UInt8 → List Char
  | [] => []
  | [a] =>
    let n := a.toNat * 16
    [symbolOf (n / 64), symbolOf (n % 64), '=', '=']
  | [a, b] =>
    let n := (a.toNat * 256 + b.toNat) * 4
    [symbolOf (n / 4096), symbolOf (n / 64 % 64), symbolOf (n % 64), '=']
  | a :: b :: c :: rest =>
    let n := a.toNat * 65536 + b.toNat * 256 + c.toNat
    symbolOf (n / 262144) :: symbolOf (n / 4096 % 64) :: symbolOf (n / 64 % 64) ::
      symbolOf (n % 64) :: encode rest

def values (position : Nat) : List UInt8 → Except Fault (List Nat)
  | [] => .ok []
  | octet :: rest =>
    match valueOf? octet with
    | none => .error (.symbol octet position)
    | some v => (values (position + 1) rest).map (v :: ·)

def onlyPadding (first : Nat) (octets : List UInt8) : Except Fault Unit :=
  if octets.all (· == padding) then .ok () else .error (.symbol padding first)

/-- The values of the symbols of the last group, before any padding. Two symbols at least precede it. -/
def lastValues (start index : Nat) : List UInt8 → Except Fault (List Nat)
  | [] => .ok []
  | octet :: rest =>
    if octet = padding then
      if index < 2 then .error (.symbol padding (start + index))
      else (onlyPadding (start + index) rest).map fun _ => []
    else
      match valueOf? octet with
      | none => .error (.symbol octet (start + index))
      | some v => (lastValues start (index + 1) rest).map (v :: ·)

def fullGroups : List Nat → List UInt8
  | a :: b :: c :: d :: rest =>
    let n := a * 262144 + b * 4096 + c * 64 + d
    UInt8.ofNat (n / 65536) :: UInt8.ofNat (n / 256) :: UInt8.ofNat n :: fullGroups rest
  | _ => []

def lastOctets (start : Nat) (symbols : List UInt8) : List Nat → Except Fault (List UInt8)
  | [a, b, c, d] => .ok (fullGroups [a, b, c, d])
  | [a, b, c] =>
    if c % 4 ≠ 0 then .error (.lastSymbol (symbols.getD 2 0) (start + 2))
    else
      let n := a * 4096 + b * 64 + c
      .ok [UInt8.ofNat (n / 1024), UInt8.ofNat (n / 4)]
  | [a, b] =>
    if b % 16 ≠ 0 then .error (.lastSymbol (symbols.getD 1 0) (start + 1))
    else .ok [UInt8.ofNat ((a * 64 + b) / 16)]
  | values => .error (.length (start + values.length))

def checkStray (octets : List UInt8) : Except Fault Unit :=
  match octets.getLast? with
  | some last =>
    if octets.length % 4 = 1 ∧ last ≠ padding ∧ valueOf? last = none then
      .error (.symbol last (octets.length - 1))
    else .ok ()
  | none => .ok ()

def decode (octets : List UInt8) : Except Fault (List UInt8) :=
  if octets = [] then .ok []
  else do
    let start := (octets.length - 1) / 4 * 4
    checkStray octets
    let front ← values 0 (octets.take start)
    let lastGroup := octets.drop start
    let last ← lastValues start 0 lastGroup
    let tail ← lastOctets start lastGroup last
    return fullGroups front ++ tail

end GatewayLink.Base64
