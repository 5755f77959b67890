import GatewayLink.Proofs.Body.Faults
import GatewayLink.Proofs.Packet.Framing

/-! The header of a datagram and what follows it.
The header decides whether a datagram is a packet at all, and of which kind. Behind it a kind without a body takes
no notice of anything, and a kind with one leaves the verdict to the body. Written again, a packet keeps the octets
of its header. -/

namespace GatewayLink

def PacketKind.headerLength : PacketKind → Nat
  | pushData | pullData => 12
  | pushAck | pullResp | pullAck => 4

theorem PacketKind.headerLength_eq (kind : PacketKind) :
    kind.headerLength = 4 + if kind.namesGateway then 8 else 0 := by
  cases kind <;> rfl

theorem PacketKind.exists_octet_iff {octet : UInt8} :
    (∃ kind : PacketKind, kind.octet = octet) ↔ ¬4 < octet := by
  constructor
  · rintro ⟨kind, rfl⟩
    cases kind <;> decide
  · intro small
    have bound : octet.toNat ≤ 4 := Nat.le_of_not_lt small
    have numbered : octet = UInt8.ofNat octet.toNat := UInt8.ofNat_toNat.symm
    rcases (show octet.toNat = 0 ∨ octet.toNat = 1 ∨ octet.toNat = 2 ∨ octet.toNat = 3 ∨
      octet.toNat = 4 by omega) with number | number | number | number | number <;>
      rw [numbered, number]
    · exact ⟨pushData, rfl⟩
    · exact ⟨pushAck, rfl⟩
    · exact ⟨pullData, rfl⟩
    · exact ⟨pullResp, rfl⟩
    · exact ⟨pullAck, rfl⟩

theorem PacketKind.namesGateway_octet {kind : PacketKind} :
    kind.namesGateway = true ↔ kind.octet = 0 ∨ kind.octet = 2 := by
  cases kind <;> decide

theorem GatewayId.exists_take {octets : List UInt8} (long : 8 ≤ octets.length) :
    ∃ (id : GatewayId) (rest : List UInt8), octets = id.octets.toList ++ rest := by
  match octets, long with
  | a :: b :: c :: d :: e :: f :: g :: h :: rest, _ =>
    exact ⟨⟨#v[a, b, c, d, e, f, g, h]⟩, rest, rfl⟩

theorem GatewayId.take?_eq_none {octets : List UInt8} (short : octets.length < 8) :
    take? octets = none := by
  cases taken : take? octets with
  | none => rfl
  | some found =>
    obtain ⟨id, rest⟩ := found
    rw [take?_eq_some.mp taken, List.length_append, id.length_octets] at short
    omega

namespace Packet

def Headless (datagram : List UInt8) : Prop :=
  datagram.length < 4 ∨ datagram[0]? ≠ some 1 ∨ (∃ octet, datagram[3]? = some octet ∧ 4 < octet) ∨
    (datagram[3]? = some 0 ∨ datagram[3]? = some 2) ∧ datagram.length < 12

def header (p : Packet) : List UInt8 :=
  p.version :: p.token.octets ++ p.kind.octet :: p.gatewayOctets

structure Headed (p : Packet) : Prop where
  version : p.version = currentVersion
  names : p.kind.namesGateway = p.gateway.isSome

variable {p : Packet} {datagram rest : List UInt8}

theorem octets_eq (p : Packet) : p.octets = p.header ++ p.bodyOctets := rfl

theorem Headed.length_header (headed : p.Headed) : p.header.length = p.kind.headerLength := by
  have names := headed.names
  rw [header, gatewayOctets, PacketKind.headerLength_eq]
  cases gateway : p.gateway <;> simp [gateway] at names <;> simp [names, Token.octets]

theorem Headed.take_append (headed : p.Headed) (rest : List UInt8) :
    (p.header ++ rest).take p.kind.headerLength = p.header := by
  rw [← headed.length_header, List.take_left]

theorem Headed.drop_append (headed : p.Headed) (rest : List UInt8) :
    (p.header ++ rest).drop p.kind.headerLength = rest := by
  rw [← headed.length_header, List.drop_left]

theorem Headed.decode_append (headed : p.Headed) (rest : List UInt8) :
    decode (p.header ++ rest) =
      (readBody p.kind rest).map fun body => { p with body := body } := by
  have layout : p.header ++ rest = p.version :: (p.token.number / 256).toUInt8 ::
      p.token.number.toUInt8 :: p.kind.octet :: (p.gatewayOctets ++ rest) := by
    simp [header, Token.octets]
  rw [layout, decode, if_neg (not_not.mpr headed.version), PacketKind.ofOctet?_octet]
  simp only [readGateway_octets headed.names, Token.ofOctets_octets, bind, Except.bind]
  cases readBody p.kind rest <;> rfl

theorem exists_of_decode (decoded : decode datagram = .ok p) :
    p.Headed ∧ ∃ rest, datagram = p.header ++ rest ∧ readBody p.kind rest = .ok p.body := by
  obtain ⟨version, names, high, low, rest, token, rfl, read⟩ := decode_eq_ok.mp decoded
  refine ⟨⟨version, names⟩, rest, ?_, read⟩
  rw [header, version, token, Token.octets_ofOctets]
  rfl

theorem exists_four (long : 4 ≤ datagram.length) :
    ∃ first high low octet rest, datagram = first :: high :: low :: octet :: rest := by
  match datagram, long with
  | first :: high :: low :: octet :: rest, _ => exact ⟨first, high, low, octet, rest, rfl⟩

theorem exists_header (present : ¬Headless datagram) :
    ∃ p rest, Headed p ∧ datagram = p.header ++ rest := by
  simp only [Headless, not_or, not_and, not_exists, not_not, Nat.not_lt] at present
  obtain ⟨long, version, known, named⟩ := present
  obtain ⟨first, high, low, octet, rest, rfl⟩ := exists_four long
  obtain rfl : first = 1 := by simpa using version
  obtain ⟨kind, rfl⟩ := PacketKind.exists_octet_iff.mpr (known octet rfl)
  have token := Token.octets_ofOctets high low
  cases names : kind.namesGateway with
  | false =>
    refine ⟨⟨currentVersion, .ofOctets high low, kind, none, none⟩, rest, ⟨rfl, names⟩, ?_⟩
    simp [header, gatewayOctets, token, currentVersion]
  | true =>
    have room : 8 ≤ rest.length := by
      simpa using named (by simpa using PacketKind.namesGateway_octet.mp names)
    obtain ⟨id, rest, rfl⟩ := GatewayId.exists_take room
    refine ⟨⟨currentVersion, .ofOctets high low, kind, some id, none⟩, rest, ⟨rfl, names⟩, ?_⟩
    simp [header, gatewayOctets, token, currentVersion]

theorem fault_of_headless (headless : Headless datagram) :
    ∃ cause, decode datagram = .error (.header cause) := by
  by_cases short : datagram.length < headerLength
  · exact ⟨_, decode_short short⟩
  · obtain ⟨first, high, low, octet, rest, rfl⟩ := exists_four (Nat.not_lt.mp short)
    by_cases version : first = currentVersion
    · cases known : PacketKind.ofOctet? octet with
      | none => exact ⟨.unknownKind octet, by simp [decode, version, known]⟩
      | some kind =>
        obtain rfl := PacketKind.ofOctet?_eq_some.mp known
        rcases headless with short' | other | ⟨_, last, unknown⟩ | ⟨names, room⟩
        · exact absurd short' short
        · exact absurd (congrArg some version) other
        · exact absurd unknown (PacketKind.exists_octet_iff.mp ⟨kind, Option.some.inj last⟩)
        · have names : kind.namesGateway = true :=
            PacketKind.namesGateway_octet.mpr (by simpa using names)
          have missing : GatewayId.take? rest = none := by
            simp only [List.length_cons] at room
            exact GatewayId.take?_eq_none (by omega)
          refine ⟨.noGateway kind (first :: high :: low :: kind.octet :: rest).length, ?_⟩
          simp only [decode, version, known, readGateway, names, missing]
          rfl
    · exact ⟨.version first, by simp [decode, version]⟩

theorem readBody_ne_header {kind : PacketKind} {cause : HeaderFault} :
    readBody kind rest ≠ .error (.header cause) := by
  intro failed
  unfold readBody at failed
  split at failed
  · cases failed
  · split at failed
    · cases failed
    · next direction _ _ =>
      cases decoded : Body.decode direction rest with
      | ok b =>
        rw [decoded] at failed
        cases failed
      | error fault =>
        rw [decoded] at failed
        cases failed
        rcases Body.fault_of_decode decoded with confined | ⟨_, schema⟩
        · exact confined
        · cases schema

theorem decode_header_iff :
    (∃ cause, decode datagram = .error (.header cause)) ↔ Headless datagram := by
  refine ⟨fun ⟨cause, failed⟩ => ?_, fault_of_headless⟩
  by_contra present
  obtain ⟨p, rest, headed, rfl⟩ := exists_header present
  rw [headed.decode_append] at failed
  cases body : readBody p.kind rest with
  | ok b =>
    rw [body] at failed
    cases failed
  | error fault =>
    rw [body] at failed
    cases failed
    exact readBody_ne_header body

theorem Headed.encode_bare (headed : p.Headed) (bare : p.kind.bodyDirection? = none)
    (empty : p.body = none) : p.encode = .ok p.header := by
  refine encode_eq_ok.mpr ⟨check_eq_ok.mpr ⟨headed.version, headed.names, ?_⟩, ?_⟩
  · rw [checkBody, bare, empty]
  · rw [octets_eq, bodyOctets, bare, List.append_nil]

theorem readBody_bare {kind : PacketKind} (bare : kind.bodyDirection? = none) (rest : List UInt8) :
    readBody kind rest = .ok none := by
  rw [readBody, bare]

theorem readBody_carried {kind : PacketKind} {direction : Direction}
    (carried : kind.bodyDirection? = some direction) (rest : List UInt8) :
    readBody kind rest =
      if rest = [] then .error (.body (.absent kind))
      else (Body.decode direction rest).map some := by
  rw [readBody, carried]

theorem kind_of_header {kind : PacketKind}
    (known : (p.header ++ rest)[3]? = some kind.octet) : p.kind = kind := by
  have octet : p.kind.octet = kind.octet := by simpa [header, Token.octets] using known
  have named := PacketKind.ofOctet?_octet kind
  rwa [← octet, PacketKind.ofOctet?_octet, Option.some.injEq] at named

theorem decode_carried {kind : PacketKind} {direction : Direction} (present : ¬Headless datagram)
    (known : datagram[3]? = some kind.octet) (carried : kind.bodyDirection? = some direction) :
    ∃ packet : Body → Packet, decode datagram =
      if datagram.drop kind.headerLength = [] then .error (.body (.absent kind))
      else (Body.decode direction (datagram.drop kind.headerLength)).map packet := by
  obtain ⟨p, rest, headed, rfl⟩ := exists_header present
  obtain rfl := kind_of_header known
  refine ⟨fun body => { p with body := some body }, ?_⟩
  rw [headed.decode_append, headed.drop_append, readBody_carried carried]
  split
  · rfl
  · cases Body.decode direction rest <;> rfl

/-- The kinds with a body, and the way that it goes. -/
inductive CarriesBody : PacketKind → Direction → Prop
  | pushData : CarriesBody .pushData .uplink
  | pullResp : CarriesBody .pullResp .downlink

theorem CarriesBody.bodyDirection? {kind : PacketKind} {direction : Direction}
    (carries : CarriesBody kind direction) : kind.bodyDirection? = some direction := by
  cases carries <;> rfl

theorem bodyDirection?_of_bare {kind : PacketKind} (bare : kind ∈ [.pushAck, .pullData, .pullAck]) :
    kind.bodyDirection? = none := by
  cases kind with
  | pushData | pullResp => simp at bare
  | _ => rfl

/-- What the header of a datagram decides about it, and what it leaves to the body. -/
structure Framing (datagram : List UInt8) : Prop where
  malformed : (∃ cause, decode datagram = .error (.header cause)) ↔ Headless datagram
  /-- Without a body the packet is written as its header, and what follows the datagram does not matter. -/
  bare : ∀ p, decode datagram = .ok p → p.kind ∈ [.pushAck, .pullData, .pullAck] →
    p.encode = .ok (datagram.take p.kind.headerLength) ∧ ∀ more, decode (datagram ++ more) = .ok p
  kept : ∀ p, decode datagram = .ok p → ∀ written, p.encode = .ok written →
    datagram.take p.kind.headerLength <+: written
  /-- Behind the header of a kind with a body everything is up to the octets of the body. -/
  read : ∀ (kind : PacketKind) (direction : Direction), CarriesBody kind direction →
    ¬Headless datagram → datagram[3]? = some kind.octet →
    let body := datagram.drop kind.headerLength
    (∃ p, decode datagram = .ok p) ↔ body ≠ [] ∧ ∃ b, Body.decode direction body = .ok b
  refused : ∀ (kind : PacketKind) (direction : Direction), CarriesBody kind direction →
    ¬Headless datagram → datagram[3]? = some kind.octet →
    let body := datagram.drop kind.headerLength
    ∀ fault, decode datagram = .error fault ↔
      body = [] ∧ fault = .body (.absent kind) ∨ body ≠ [] ∧ Body.decode direction body = .error fault

/-- What the header decides, for every datagram. -/
theorem decode_framing (datagram : List UInt8) : Framing datagram where
  malformed := decode_header_iff
  bare p decoded bare := by
    have bare := bodyDirection?_of_bare bare
    obtain ⟨headed, rest, rfl, read⟩ := exists_of_decode decoded
    rw [readBody_bare bare, Except.ok.injEq] at read
    refine ⟨?_, fun more => ?_⟩
    · rw [headed.take_append]
      exact headed.encode_bare bare read.symm
    · rw [List.append_assoc, headed.decode_append, readBody_bare bare, read]
      rfl
  kept p decoded written encoded := by
    obtain ⟨headed, rest, rfl, -⟩ := exists_of_decode decoded
    obtain ⟨-, rfl⟩ := encode_eq_ok.mp encoded
    rw [headed.take_append, octets_eq]
    exact List.prefix_append _ _
  read kind direction carries present known := by
    obtain ⟨packet, verdict⟩ := decode_carried present known carries.bodyDirection?
    rw [verdict]
    split
    · next empty => simp [empty]
    · next filled =>
      cases decoded : Body.decode direction (datagram.drop kind.headerLength) <;>
        simp [filled, decoded, Except.map]
  refused kind direction carries present known fault := by
    obtain ⟨packet, verdict⟩ := decode_carried present known carries.bodyDirection?
    rw [verdict]
    split
    · next empty => simp [empty, eq_comm]
    · next filled =>
      cases Body.decode direction (datagram.drop kind.headerLength) <;> simp [filled, Except.map]

/-- The octets behind an acknowledgment are not written again. Those behind the header of an upstream request are
its body, and there has to be one. -/
theorem decode_framing_followed :
    let ack := [currentVersion, 0x12, 0x34, PacketKind.pullAck.octet]
    let request := [currentVersion, 0x12, 0x34, PacketKind.pushData.octet, 0, 0, 0, 0, 0, 0, 0, 1]
    decode (ack ++ [0xFF]) = .ok (pullAck ⟨0x1234⟩) ∧ (pullAck ⟨0x1234⟩).encode = .ok ack ∧
      (∃ p, decode (request ++ Json.octetsOfText "{}") = .ok p) ∧
      decode request = .error (.body (.absent .pushData)) := by
  intro ack request
  have decoded : decode (ack ++ [0xFF]) = .ok (pullAck ⟨0x1234⟩) := by decide +kernel
  have present : ¬Headless request ∧ ¬Headless (request ++ Json.octetsOfText "{}") := by
    constructor <;> simp [Headless, request, currentVersion, PacketKind.octet]
  have body : Body.decode .uplink (Json.octetsOfText "{}") = .ok .empty := by decide +kernel
  refine ⟨decoded, ((decode_framing _).bare _ decoded (by decide)).1, ?_, ?_⟩
  · exact ((decode_framing _).read _ _ .pushData present.2 rfl).mpr ⟨by decide +kernel, _, body⟩
  · exact ((decode_framing _).refused _ _ .pushData present.1 rfl _).mpr (.inl ⟨rfl, rfl⟩)

end Packet

end GatewayLink
