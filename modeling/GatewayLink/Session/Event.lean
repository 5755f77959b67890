import GatewayLink.Packet.Basic

/-! What a registry of sessions deals with besides packets: addresses, the policy it follows, the events it
reports to the application, the packets it wants sent, and the faults of downlink calls. -/

namespace GatewayLink

structure Address where
  text : String
  deriving DecidableEq, Inhabited

namespace Address

instance : Ord Address := ⟨compareOn Address.text⟩

instance : Std.TransOrd Address := inferInstanceAs (Std.TransCmp (compareOn Address.text))

instance : Std.LawfulEqOrd Address where
  eq_of_compare {a b} h := by
    cases a; cases b
    exact congrArg Address.mk (Std.LawfulEqOrd.eq_of_compare h)

end Address

abbrev Instant := Nat

structure Policy where
  /-- How long a downlink may stay unacknowledged before it is sent again, in milliseconds. -/
  ackTimeout : UInt64
  maxRetries : UInt32
  /-- A gateway silent for this many seconds is dropped. -/
  inactivity : UInt64
  sweepInterval : UInt64
  deriving DecidableEq

namespace Policy

def standard : Policy := ⟨2000, 1, 60, 500⟩

def window (p : Policy) : Nat := 1000 * p.inactivity.toNat

def windowText (p : Policy) : String :=
  if p.inactivity = 0 then "0ns" else toString p.inactivity.toNat ++ "s"

def deadline (p : Policy) (now : Instant) : Instant := now + p.ackTimeout.toNat

end Policy

inductive Event where
  | uplinkReceived (gateway : GatewayId) (frame : UplinkFrame)
  | statusReceived (gateway : GatewayId) (status : StatusReport)
  | downlinkAcked (gateway : GatewayId) (token : Token)
  | downlinkFailed (gateway : GatewayId) (token : Token)
  | gatewayDisconnected (gateway : GatewayId)
  deriving DecidableEq

def Event.gateway : Event → GatewayId
  | uplinkReceived gateway _ => gateway
  | statusReceived gateway _ => gateway
  | downlinkAcked gateway _ => gateway
  | downlinkFailed gateway _ => gateway
  | gatewayDisconnected gateway => gateway

structure Outbound where
  address : Address
  packet : Packet
  deriving DecidableEq

inductive SessionFault where
  | unknownGateway (gateway : GatewayId)
  | noRoute (gateway : GatewayId)
  | tokensExhausted (gateway : GatewayId)
  | notOutstanding (gateway : GatewayId) (token : Token)
  | packet (cause : Fault)
  deriving DecidableEq

def SessionFault.message? : SessionFault → Option String
  | unknownGateway gateway => some ("gateway " ++ gateway.text ++ " has no active session")
  | noRoute gateway =>
    some ("gateway " ++ gateway.text ++ " has not sent PULL_DATA yet, no downlink route")
  | tokensExhausted gateway => some ("no free token for gateway " ++ gateway.text)
  | notOutstanding gateway token =>
    some ("token " ++ token.text ++ " is not outstanding for gateway " ++ gateway.text)
  | packet cause => cause.message?

end GatewayLink
