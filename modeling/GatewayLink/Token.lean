import Std.Data.ExtTreeMap
import GatewayLink.Text.Hex

/-! Tokens: 16-bit marks that tie an acknowledgment to its request. -/

namespace GatewayLink

structure Token where
  number : UInt16
  deriving DecidableEq, Inhabited

namespace Token

instance : Ord Token := ⟨compareOn Token.number⟩

instance : Std.TransOrd Token := inferInstanceAs (Std.TransCmp (compareOn Token.number))

instance : Std.LawfulEqOrd Token where
  eq_of_compare {a b} h := by
    cases a; cases b
    exact congrArg Token.mk (Std.LawfulEqOrd.eq_of_compare h)

def ofOctets (high low : UInt8) : Token := ⟨high.toUInt16 * 256 + low.toUInt16⟩

def octets (t : Token) : List UInt8 := [(t.number / 256).toUInt8, t.number.toUInt8]

def text (t : Token) : String := "0x" ++ Text.hexOctets t.octets

end Token

end GatewayLink
