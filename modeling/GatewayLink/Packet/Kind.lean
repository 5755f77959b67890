/-! The kinds of packets, and the bodies that two of them carry. -/

namespace GatewayLink

/-- Uplink bodies go from a gateway to the server, downlink bodies the other way. -/
inductive Direction where
  | uplink
  | downlink
  deriving DecidableEq

inductive PacketKind where
  | pushData
  | pushAck
  | pullData
  | pullResp
  | pullAck
  deriving DecidableEq

namespace PacketKind

def octet : PacketKind → UInt8
  | pushData => 0
  | pushAck => 1
  | pullData => 2
  | pullResp => 3
  | pullAck => 4

def ofOctet? (octet : UInt8) : Option PacketKind :=
  match octet with
  | 0 => some pushData
  | 1 => some pushAck
  | 2 => some pullData
  | 3 => some pullResp
  | 4 => some pullAck
  | _ => none

@[simp] theorem ofOctet?_octet (k : PacketKind) : ofOctet? k.octet = some k := by
  cases k <;> rfl

def namesGateway : PacketKind → Bool
  | pushData | pullData => true
  | _ => false

def bodyDirection? : PacketKind → Option Direction
  | pushData => some .uplink
  | pullResp => some .downlink
  | _ => none

def text : PacketKind → String
  | pushData => "PUSH_DATA"
  | pushAck => "PUSH_ACK"
  | pullData => "PULL_DATA"
  | pullResp => "PULL_RESP"
  | pullAck => "PULL_ACK"

end PacketKind

end GatewayLink
