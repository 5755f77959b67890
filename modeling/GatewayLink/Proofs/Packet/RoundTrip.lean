import GatewayLink.Packet.Basic
import GatewayLink.Proofs.Body.RoundTrip

/-! Round trip of packets.
A packet that can be written is read back from its datagram exactly if all its floats survive and all its
radio times have a year of four digits. The header always comes back. -/

namespace GatewayLink

theorem Token.ofOctets_octets (t : Token) :
    ofOctets (t.number / 256).toUInt8 t.number.toUInt8 = t := by
  have bound := t.number.toNat_lt
  have number : (t.number / 256).toUInt8.toUInt16 * 256 + t.number.toUInt8.toUInt16 = t.number := by
    rw [← UInt16.toNat_inj]
    simp
    omega
  rw [ofOctets, number]

theorem GatewayId.take?_octets (id : GatewayId) (rest : List UInt8) :
    take? (id.octets.toList ++ rest) = some (id, rest) := by
  obtain ⟨⟨⟨octets⟩, eight⟩⟩ := id
  match octets, eight with
  | [_, _, _, _, _, _, _, _], _ => rfl

namespace Packet

def floats (p : Packet) : List Binary64 := p.body.toList.flatMap Body.floats

def radioTimes (p : Packet) : List Moment := p.body.toList.flatMap Body.radioTimes

theorem check_eq_ok {p : Packet} :
    p.check = .ok () ↔ p.version = currentVersion ∧ p.kind.namesGateway = p.gateway.isSome ∧
      p.checkBody = .ok () := by
  rw [check]
  by_cases version : p.version = currentVersion
  · by_cases gateway : p.kind.namesGateway = p.gateway.isSome <;> simp [version, gateway]
  · simp [version]

theorem readGateway_octets {p : Packet} (named : p.kind.namesGateway = p.gateway.isSome)
    (length : Nat) (rest : List UInt8) :
    readGateway p.kind length (p.gatewayOctets ++ rest) = .ok (p.gateway, rest) := by
  rw [readGateway, named, gatewayOctets]
  cases p.gateway with
  | none => rfl
  | some id => simp [GatewayId.take?_octets]

theorem behind_gateway {p q : Packet} {rest rest' : List UInt8}
    (namedP : p.kind.namesGateway = p.gateway.isSome) (namedQ : q.kind.namesGateway = q.gateway.isSome)
    (same : p.kind.octet :: (p.gatewayOctets ++ rest) = q.kind.octet :: (q.gatewayOctets ++ rest')) :
    p.kind = q.kind ∧ rest = rest' := by
  obtain ⟨octet, behind⟩ := List.cons.inj same
  have kind : p.kind = q.kind := by
    have known := PacketKind.ofOctet?_octet p.kind
    rwa [octet, PacketKind.ofOctet?_octet, Option.some.injEq, eq_comm] at known
  have split := readGateway_octets namedP 0 rest
  rw [behind, kind, readGateway_octets namedQ, Except.ok.injEq, Prod.mk.injEq] at split
  exact ⟨kind, split.2.symm⟩

theorem readBody_octets {p : Packet} (checked : p.checkBody = .ok ()) :
    readBody p.kind p.bodyOctets = .ok p.body ↔
      (∀ x ∈ p.floats, x.Survives) ∧ ∀ t ∈ p.radioTimes, t.HasPlainYear := by
  rw [checkBody] at checked
  rw [readBody, bodyOctets, floats, radioTimes]
  cases way : p.kind.bodyDirection? with
  | none =>
    cases body : p.body with
    | none => simp
    | some b => simp [way, body] at checked
  | some direction =>
    cases body : p.body with
    | none => simp [way, body] at checked
    | some b =>
      have written : b.check direction = .ok () := by simpa [way, body] using checked
      have whole : (Body.decode direction (b.octets direction)).map some = .ok (some b) ↔
          Body.decode direction (b.octets direction) = .ok b := by
        cases Body.decode direction (b.octets direction) <;> simp [Except.map]
      simp only [if_neg (Body.octets_ne_nil direction b), whole, Body.decode_octets written,
        Option.toList_some, List.flatMap_singleton]

/-- A written packet comes back exactly if each of its floats is finite and keeps its bits through the
printed text, and the time of every frame and of the command has a year from 0 to 9999. -/
theorem decode_encode_iff {p : Packet} {datagram : List UInt8} (written : p.encode = .ok datagram) :
    decode datagram = .ok p ↔
      (∀ x ∈ p.floats, x.Survives) ∧ ∀ t ∈ p.radioTimes, t.HasPlainYear := by
  have checked : p.check = .ok () ∧ p.octets = datagram := by
    rw [encode] at written
    cases check : p.check with
    | error fault => simp [check, Except.map] at written
    | ok u => simpa [check, Except.map] using written
  obtain ⟨ok, rfl⟩ := checked
  obtain ⟨version, named, body_ok⟩ := check_eq_ok.mp ok
  rw [← readBody_octets body_ok]
  have layout : p.octets = p.version :: (p.token.number / 256).toUInt8 :: p.token.number.toUInt8 ::
      p.kind.octet :: (p.gatewayOctets ++ p.bodyOctets) := by
    simp [octets, Token.octets]
  rw [layout, decode, if_neg (not_not.mpr version), PacketKind.ofOctet?_octet]
  simp only [readGateway_octets named, Token.ofOctets_octets]
  have whole (body : Option Body) :
      Packet.mk p.version p.token p.kind p.gateway body = p ↔ body = p.body := by
    cases p
    simp
  change ((readBody p.kind p.bodyOctets).bind fun body =>
    .ok ⟨p.version, p.token, p.kind, p.gateway, body⟩) = .ok p ↔ _
  cases readBody p.kind p.bodyOctets with
  | error fault => simp [Except.bind]
  | ok body => simpa [Except.bind] using whole body

def lateFrame : UplinkFrame :=
  ⟨some ⟨1483228799, 1500000000, by decide⟩, 7, 2, 0, ⟨0x408B20CCCCCCCCCD⟩, .passed, .lora "SF7BW125",
    none, -35, none, 2, [0xAB, 0x01]⟩

def lateUplink : Packet :=
  pushData ⟨0x1234⟩ (GatewayId.ofNumber 1) (.uplink [lateFrame] none)

theorem decode_encode_lateUplink :
    lateUplink.encode = .ok lateUplink.octets ∧ decode lateUplink.octets = .ok lateUplink := by
  have written : lateUplink.encode = .ok lateUplink.octets := by rfl
  refine ⟨written, (decode_encode_iff written).mpr ⟨?_, ?_⟩⟩
  · decide +kernel
  · decide +kernel

end Packet

end GatewayLink
