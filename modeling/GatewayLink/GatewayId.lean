import Std.Data.ExtTreeMap
import GatewayLink.Text.Hex

/-! Gateway identifiers: eight octets, the most significant one first, in lexicographic order. -/

namespace GatewayLink

structure GatewayId where
  octets : Vector UInt8 8
  deriving DecidableEq

namespace GatewayId

instance : Ord GatewayId := ⟨compareOn GatewayId.octets⟩

instance : Std.TransOrd GatewayId := inferInstanceAs (Std.TransCmp (compareOn GatewayId.octets))

instance : Std.LawfulEqOrd GatewayId where
  eq_of_compare {a b} h := by
    cases a; cases b
    exact congrArg GatewayId.mk (Std.LawfulEqOrd.eq_of_compare h)

instance : LT GatewayId := ltOfOrd

/-- The identifier of a number: octet `i` counts multiples of `256 ^ (7 - i)`. -/
def ofNumber (n : UInt64) : GatewayId :=
  ⟨Vector.ofFn fun i => UInt8.ofNat (n.toNat / Nat.pow 256 (7 - i.val))⟩

def take? : List UInt8 → Option (GatewayId × List UInt8)
  | a :: b :: c :: d :: e :: f :: g :: h :: rest => some (⟨#v[a, b, c, d, e, f, g, h]⟩, rest)
  | _ => none

def text (id : GatewayId) : String := Text.hexOctets id.octets.toList

@[simp] theorem length_octets (id : GatewayId) : id.octets.toList.length = 8 := by simp

end GatewayId

end GatewayLink
