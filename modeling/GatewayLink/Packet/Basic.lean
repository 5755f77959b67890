import GatewayLink.Body.Basic
import GatewayLink.GatewayId
import GatewayLink.Token

/-! Packets: a header of version, token and kind, then a gateway identifier and a body for the kinds that
have them.
`decode` reads a datagram; octets after a kind without body are ignored. `check` tells whether a packet
can be written, `octets` writes one that can, and `encode` does both. -/

namespace GatewayLink

structure Packet where
  version : UInt8
  token : Token
  kind : PacketKind
  gateway : Option GatewayId
  body : Option Body
  deriving DecidableEq

namespace Packet

def currentVersion : UInt8 := 1

def headerLength : Nat := 4

def pushData (token : Token) (gateway : GatewayId) (body : Body) : Packet :=
  ⟨currentVersion, token, .pushData, some gateway, some body⟩

def pushAck (token : Token) : Packet := ⟨currentVersion, token, .pushAck, none, none⟩

def pullData (token : Token) (gateway : GatewayId) : Packet :=
  ⟨currentVersion, token, .pullData, some gateway, none⟩

def pullResp (token : Token) (command : DownlinkCommand) : Packet :=
  ⟨currentVersion, token, .pullResp, none, some (.downlink command)⟩

def pullAck (token : Token) : Packet := ⟨currentVersion, token, .pullAck, none, none⟩

def readGateway (kind : PacketKind) (length : Nat) (rest : List UInt8) :
    Except Fault (Option GatewayId × List UInt8) :=
  if kind.namesGateway then
    match GatewayId.take? rest with
    | some (id, rest) => .ok (some id, rest)
    | none => .error (.header (.noGateway kind length))
  else .ok (none, rest)

def readBody (kind : PacketKind) (rest : List UInt8) : Except Fault (Option Body) :=
  match kind.bodyDirection? with
  | none => .ok none
  | some direction =>
    if rest = [] then .error (.body (.absent kind))
    else (Body.decode direction rest).map some

def decode (datagram : List UInt8) : Except Fault Packet :=
  match datagram with
  | version :: high :: low :: kindOctet :: rest =>
    if version ≠ currentVersion then .error (.header (.version version))
    else
      match PacketKind.ofOctet? kindOctet with
      | none => .error (.header (.unknownKind kindOctet))
      | some kind => do
        let (gateway, rest) ← readGateway kind datagram.length rest
        let body ← readBody kind rest
        return ⟨version, Token.ofOctets high low, kind, gateway, body⟩
  | _ => .error (.header (.tooShort datagram.length))

def checkBody (p : Packet) : Except Fault Unit :=
  match p.kind.bodyDirection?, p.body with
  | some direction, some body => body.check direction
  | none, none => .ok ()
  | _, _ => .error (.packet (.body p.kind))

def check (p : Packet) : Except Fault Unit :=
  if p.version ≠ currentVersion then .error (.packet (.version p.version))
  else if p.kind.namesGateway ≠ p.gateway.isSome then .error (.packet (.gateway p.kind))
  else p.checkBody

def bodyOctets (p : Packet) : List UInt8 :=
  match p.kind.bodyDirection?, p.body with
  | some direction, some body => body.octets direction
  | _, _ => []

def gatewayOctets (p : Packet) : List UInt8 :=
  match p.gateway with
  | some id => id.octets.toList
  | none => []

def octets (p : Packet) : List UInt8 :=
  p.version :: p.token.octets ++ p.kind.octet :: p.gatewayOctets ++ p.bodyOctets

def encode (p : Packet) : Except Fault (List UInt8) := p.check.map fun _ => p.octets

theorem encode_eq_ok {p : Packet} {datagram : List UInt8} :
    p.encode = .ok datagram ↔ p.check = .ok () ∧ p.octets = datagram := by
  rw [encode]
  cases p.check <;> simp [Except.map]

theorem decode_short {datagram : List UInt8} (short : datagram.length < headerLength) :
    decode datagram = .error (.header (.tooShort datagram.length)) := by
  match datagram, short with
  | [], _ | [_], _ | [_, _], _ | [_, _, _], _ => rfl

end Packet

end GatewayLink
