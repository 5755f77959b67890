import GatewayLink.Proofs.Body.Reencoding
import GatewayLink.Proofs.Packet.Framing

/-! Packets that were read and are written again.
However a datagram was put, its packet is written in one way, and the new datagram gives the packet back
unless one of its radio times left the years of four digits when it was turned to UTC. Such a time is written
with a sign in front of its year, which the reader of the compact layout refuses. -/

namespace GatewayLink

open Json Reading

namespace Packet

theorem isCompact_of_decode {datagram : List UInt8} {p : Packet}
    (decoded : decode datagram = .ok p) : ∀ t ∈ p.radioTimes, t.IsCompact := by
  obtain ⟨-, -, _, _, rest, -, -, read⟩ := decode_eq_ok.mp decoded
  rcases readBody_eq_ok read with ⟨-, bare⟩ | ⟨direction, b, -, carried, given⟩
  · simp [radioTimes, bare]
  · rw [radioTimes, carried, Option.toList_some, List.flatMap_singleton]
    exact Body.isCompact_of_decode given

theorem checkBody_eq_ok {p : Packet} (checked : p.checkBody = .ok ()) :
    (p.kind.bodyDirection? = none ∧ p.body = none) ∨
      ∃ direction b, p.kind.bodyDirection? = some direction ∧ p.body = some b ∧
        b.check direction = .ok () := by
  unfold checkBody at checked
  split at checked
  · next direction b way carried => exact .inr ⟨direction, b, way, carried, checked⟩
  · next bare empty => exact .inl ⟨bare, empty⟩
  · cases checked

theorem readBody_of_decode_octets {p again : Packet}
    (names : p.kind.namesGateway = p.gateway.isSome) (decoded : decode p.octets = .ok again) :
    readBody p.kind p.bodyOctets = .ok again.body := by
  obtain ⟨-, namesAgain, high, low, rest, -, layout, read⟩ := decode_eq_ok.mp decoded
  simp only [octets, Token.octets, List.cons_append, List.nil_append, List.cons.injEq] at layout
  obtain ⟨kind, behind⟩ :=
    behind_gateway names namesAgain (List.cons_eq_cons.mpr layout.2.2.2)
  rw [kind, behind]
  exact read

theorem plain_of_decode_octets {p again : Packet} (checked : p.check = .ok ())
    (decoded : decode p.octets = .ok again) : ∀ t ∈ p.radioTimes, t.HasPlainYear := by
  obtain ⟨-, names, body_ok⟩ := check_eq_ok.mp checked
  have read := readBody_of_decode_octets names decoded
  rcases checkBody_eq_ok body_ok with ⟨-, bare⟩ | ⟨direction, b, way, carried, written⟩
  · simp [radioTimes, bare]
  · rcases readBody_eq_ok read with ⟨bare, -⟩ | ⟨direction', bodyAgain, way', -, given⟩
    · cases way.symm.trans bare
    · cases way.symm.trans way'
      rw [bodyOctets, way, carried] at given
      rw [radioTimes, carried, Option.toList_some, List.flatMap_singleton]
      exact Body.plain_of_decode_octets written given

/-- A packet that was read has no radio times but those of years with four digits, of the day before these
years and of the day after them. Written again it comes back if none of its times is of these two days, and
otherwise the new datagram is refused. -/
theorem decode_reencoded {datagram written : List UInt8} {p : Packet}
    (decoded : decode datagram = .ok p) (survive : ∀ x ∈ p.floats, x.Survives)
    (encoded : p.encode = .ok written) :
    (∀ t ∈ p.radioTimes, t.HasPlainYear ∨ t.date = ⟨-1, 12, 31⟩ ∨ t.date = ⟨10000, 1, 1⟩) ∧
      ((∀ t ∈ p.radioTimes, t.HasPlainYear) → decode written = .ok p) ∧
        ((∃ t ∈ p.radioTimes, ¬t.HasPlainYear) → ∃ fault, decode written = .error fault) := by
  refine ⟨fun t member => (isCompact_of_decode decoded t member).date, fun plain => ?_, ?_⟩
  · exact (decode_encode_iff encoded).mpr ⟨survive, plain⟩
  · rintro ⟨t, member, signed⟩
    obtain ⟨checked, rfl⟩ := encode_eq_ok.mp encoded
    cases again : decode p.octets with
    | error fault => exact ⟨fault, rfl⟩
    | ok q => exact absurd (plain_of_decode_octets checked again t member) signed

def downlinkAt (time : String) : List UInt8 :=
  [currentVersion, 0x12, 0x34, PacketKind.pullResp.octet] ++
    octetsOfText ("\x7b\"txpk\":\x7b\"time\":\"" ++ time ++
      "\",\"modu\":\"FSK\",\"datr\":\"+50000\",\"data\":\"AQ\"\x7d\x7d")

def commandAt (time : Moment) : Packet :=
  pullResp ⟨0x1234⟩
    ⟨none, none, some time, .zero, 0, 0, .fsk 50000, none, none, none, none, 0, [1], none⟩

/-- The leap second that ended 2016, at an offset that shows it in 2017. -/
theorem decode_reencoded_leapSecond :
    let p := commandAt ⟨1483228799, 1500000000, by decide⟩
    decode (downlinkAt "2017-01-01t05:29:60.5+05:30") = .ok p ∧ decode p.octets = .ok p := by
  intro p
  have decoded : decode (downlinkAt "2017-01-01t05:29:60.5+05:30") = .ok p := by decide +kernel
  have survive : ∀ x ∈ p.floats, x.Survives := by decide +kernel
  have encoded : p.encode = .ok p.octets := by decide +kernel
  have plain : ∀ t ∈ p.radioTimes, t.HasPlainYear := by decide +kernel
  exact ⟨decoded, (decode_reencoded decoded survive encoded).2.1 plain⟩

/-- The first moment of year 0 in a zone that is a minute ahead is still of year -1 in UTC. It is written
with that year, and what was written is refused. -/
theorem decode_reencoded_before_year_zero :
    let p := commandAt ⟨-62167219260, 0, by decide⟩
    decode (downlinkAt "0000-01-01T00:00:00+00:01") = .ok p ∧ (∀ x ∈ p.floats, x.Survives) ∧
      p.encode = .ok p.octets ∧
        decode p.octets =
          .error (.timestamp "-0001-12-31T23:59:00.000000Z" .invalidCharacters) := by
  decide +kernel

end Packet

end GatewayLink
