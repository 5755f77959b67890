/-! Hexadecimal text of numbers and octets, in lower case. -/

namespace GatewayLink.Text

def hexDigit (n : Nat) : Char := Nat.digitChar (n % 16)

def hexPadded : (width : Nat) → (n : Nat) → List Char
  | 0, _ => []
  | width + 1, n => hexPadded width (n / 16) ++ [hexDigit n]

@[simp] theorem length_hexPadded (width n : Nat) : (hexPadded width n).length = width := by
  induction width generalizing n with
  | zero => rfl
  | succ width ih => simp [hexPadded, ih]

def hexOctet (b : UInt8) : List Char := hexPadded 2 b.toNat

def hexOctets (bytes : List UInt8) : String := String.ofList (bytes.flatMap hexOctet)

def hexNumber (n : Nat) : String := String.ofList (Nat.toDigits 16 n)

def hexDigit? (c : Char) : Option Nat :=
  if '0' ≤ c ∧ c ≤ '9' then some (c.toNat - '0'.toNat)
  else if 'a' ≤ c ∧ c ≤ 'f' then some (c.toNat - 'a'.toNat + 10)
  else if 'A' ≤ c ∧ c ≤ 'F' then some (c.toNat - 'A'.toNat + 10)
  else none

end GatewayLink.Text
