import GatewayLink.Proofs.Packet.RoundTrip

/-! The frame of a datagram.
What can be read is a header of version, token and kind, the gateway for the kinds that name one, and the
octets that the body is read from; and everything of that form is read. -/

namespace GatewayLink

theorem PacketKind.ofOctet?_eq_some {octet : UInt8} {kind : PacketKind} :
    ofOctet? octet = some kind ↔ octet = kind.octet := by
  constructor
  · intro named
    unfold ofOctet? at named
    split at named <;> cases named <;> rfl
  · rintro rfl
    exact ofOctet?_octet kind

theorem Token.octets_ofOctets (high low : UInt8) : (ofOctets high low).octets = [high, low] := by
  have first := high.toNat_lt
  have second := low.toNat_lt
  have high_octet : ((high.toUInt16 * 256 + low.toUInt16) / 256).toUInt8 = high := by
    rw [← UInt8.toNat_inj]
    simp
    omega
  have low_octet : (high.toUInt16 * 256 + low.toUInt16).toUInt8 = low := by
    rw [← UInt8.toNat_inj]
    simp
  rw [ofOctets, octets, high_octet, low_octet]

theorem GatewayId.take?_eq_some {datagram rest : List UInt8} {id : GatewayId} :
    take? datagram = some (id, rest) ↔ datagram = id.octets.toList ++ rest := by
  constructor
  · intro taken
    unfold take? at taken
    split at taken
    · cases taken
      rfl
    · cases taken
  · rintro rfl
    exact take?_octets id rest

namespace Packet

theorem readGateway_eq_ok {kind : PacketKind} {length : Nat} {octets rest : List UInt8}
    {gateway : Option GatewayId} (read : readGateway kind length octets = .ok (gateway, rest)) :
    kind.namesGateway = gateway.isSome ∧
      octets = (gateway.elim [] fun id => id.octets.toList) ++ rest := by
  unfold readGateway at read
  split at read
  · next names =>
    split at read
    · next id after taken =>
      cases read
      exact ⟨names, GatewayId.take?_eq_some.mp taken⟩
    · cases read
  · next unnamed =>
    cases read
    exact ⟨Bool.not_eq_true _ ▸ unnamed, rfl⟩

theorem readBody_eq_ok {kind : PacketKind} {octets : List UInt8} {body : Option Body}
    (read : readBody kind octets = .ok body) :
    (kind.bodyDirection? = none ∧ body = none) ∨
      ∃ direction b, kind.bodyDirection? = some direction ∧ body = some b ∧
        Body.decode direction octets = .ok b := by
  unfold readBody at read
  split at read
  · next bare =>
    cases read
    exact .inl ⟨bare, rfl⟩
  · next direction way =>
    split at read
    · cases read
    · cases decoded : Body.decode direction octets with
      | error fault =>
        rw [decoded] at read
        cases read
      | ok b =>
        rw [decoded] at read
        cases read
        exact .inr ⟨direction, b, way, rfl, decoded⟩

/-- A packet is read from exactly the datagrams that start with its header and its gateway and go on with
octets that its body is read from. -/
theorem decode_eq_ok {datagram : List UInt8} {p : Packet} :
    decode datagram = .ok p ↔
      p.version = currentVersion ∧ p.kind.namesGateway = p.gateway.isSome ∧
        ∃ high low rest, p.token = .ofOctets high low ∧
          datagram = currentVersion :: high :: low :: p.kind.octet :: (p.gatewayOctets ++ rest) ∧
          readBody p.kind rest = .ok p.body := by
  constructor
  · intro decoded
    unfold decode at decoded
    split at decoded
    · next version high low kindOctet after =>
      split at decoded
      · cases decoded
      · next current =>
        split at decoded
        · cases decoded
        · next kind named =>
          generalize (version :: high :: low :: kindOctet :: after).length = length at decoded
          obtain ⟨⟨gateway, rest⟩, gatewayRead, decoded⟩ := exists_of_bind_eq_ok decoded
          obtain ⟨body, bodyRead, decoded⟩ := exists_of_bind_eq_ok decoded
          cases decoded
          obtain ⟨names, split⟩ := readGateway_eq_ok gatewayRead
          have version_current := not_not.mp current
          refine ⟨version_current, names, high, low, rest, rfl, ?_, bodyRead⟩
          rw [version_current, PacketKind.ofOctet?_eq_some.mp named, split]
          cases gateway <;> rfl
    · cases decoded
  · rintro ⟨version, names, high, low, rest, token, rfl, bodyRead⟩
    obtain ⟨_, _, kind, gateway, body⟩ := p
    subst version token
    simp only [decode, PacketKind.ofOctet?_octet, ne_eq, not_true_eq_false, if_false,
      readGateway_octets names, bind, Except.bind, bodyRead]
    rfl

end Packet

end GatewayLink
