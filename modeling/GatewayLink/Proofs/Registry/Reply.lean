import GatewayLink.Proofs.Packet.Framing
import GatewayLink.Proofs.Registry.Share

/-! Answers to datagrams.
A request is acknowledged to its source under its own token, and its frames and its status become events.
Nothing else is answered, so a reply never provokes another; and what cannot be read changes nothing. -/

namespace GatewayLink

namespace Packet

theorem encode_pushAck (token : Token) : (pushAck token).encode = .ok (1 :: token.octets ++ [1]) := rfl

theorem encode_pullAck (token : Token) : (pullAck token).encode = .ok (1 :: token.octets ++ [4]) := rfl

def isSettled (p : Packet) : Prop := p.kind ≠ .pushData ∧ p.kind ≠ .pullData

theorem decode_of_bare {p : Packet} {datagram : List UInt8} (bare : p.body = none)
    (written : p.encode = .ok datagram) : decode datagram = .ok p := by
  refine (decode_encode_iff written).mpr ⟨?_, ?_⟩
  · simp [floats, bare]
  · simp [radioTimes, bare]

theorem gateway_of_decode {datagram : List UInt8} {p : Packet} (decoded : decode datagram = .ok p)
    (names : p.kind.namesGateway = true) : ∃ gateway, p.gateway = some gateway := by
  obtain ⟨-, named, -⟩ := decode_eq_ok.mp decoded
  exact Option.isSome_iff_exists.mp (named.symm.trans names)

theorem body_of_decode {datagram : List UInt8} {p : Packet} (decoded : decode datagram = .ok p)
    (kind : p.kind = .pushData) : ∃ body, p.body = some body := by
  obtain ⟨-, -, -, -, rest, -, -, read⟩ := decode_eq_ok.mp decoded
  rcases readBody_eq_ok read with ⟨bare, -⟩ | ⟨-, body, -, found, -⟩
  · rw [kind] at bare
    cases bare
  · exact ⟨body, found⟩

end Packet

/-- How a registry answers a datagram. -/
structure Registry.Answers (r : Registry) (datagram : List UInt8) (source : Address) (now : Instant) :
    Prop where
  /-- An upstream request is acknowledged, and its frames in order and then its status are reported. -/
  push : ∀ p, Packet.decode datagram = .ok p → p.kind = .pushData →
    ∃ gateway body, p.gateway = some gateway ∧ p.body = some body ∧
      (r.receive datagram source now).answer = .ok ⟨some ⟨source, .pushAck p.token⟩,
        body.frames.map (.uplinkReceived gateway) ++
          body.status.toList.map (.statusReceived gateway)⟩
  /-- A keep-alive is acknowledged, and nothing is reported. -/
  pull : ∀ p, Packet.decode datagram = .ok p → p.kind = .pullData →
    (∃ gateway, p.gateway = some gateway) ∧
      (r.receive datagram source now).answer = .ok ⟨some ⟨source, .pullAck p.token⟩, []⟩
  silent : ∀ p, Packet.decode datagram = .ok p → p.isSettled →
    ∃ events, (r.receive datagram source now).answer = .ok ⟨none, events⟩
  unread : ∀ fault, Packet.decode datagram = .error fault →
    (r.receive datagram source now).answer = .error fault ∧
      (r.receive datagram source now).registry = r
  ignored : ∀ p, Packet.decode datagram = .ok p → p.kind = .pullResp →
    (r.receive datagram source now).answer = .ok ⟨none, []⟩ ∧
      (r.receive datagram source now).registry = r
  /-- A reply goes to the source and is written as four octets, with the token of the request. -/
  echoes : ∀ dispatch reply, (r.receive datagram source now).answer = .ok dispatch →
    dispatch.reply = some reply → reply.address = source ∧ ∃ high low rest,
      (datagram = 1 :: high :: low :: 0 :: rest ∧
        reply.packet.encode = .ok [1, high, low, 1]) ∨
      (datagram = 1 :: high :: low :: 2 :: rest ∧
        reply.packet.encode = .ok [1, high, low, 4])
  /-- Wherever a reply arrives, as a packet or as octets, it is not replied to. -/
  ends : ∀ dispatch reply, (r.receive datagram source now).answer = .ok dispatch →
    dispatch.reply = some reply → ∀ (other : Registry) (address : Address) (later : Instant),
      (other.handle reply.packet address later).answer.reply = none ∧
      ∀ octets, reply.packet.encode = .ok octets →
        ∃ events, (other.receive octets address later).answer = .ok ⟨none, events⟩

namespace Registry

variable {r : Registry} {datagram : List UInt8} {source : Address} {now : Instant} {p : Packet}

theorem receive_of_decode (decoded : Packet.decode datagram = .ok p) :
    (r.receive datagram source now).answer = .ok (r.handle p source now).answer ∧
      (r.receive datagram source now).registry = (r.handle p source now).registry := by
  rw [receive, decoded]
  exact ⟨rfl, rfl⟩

theorem receive_of_fault {fault : Fault} (failed : Packet.decode datagram = .error fault) :
    (r.receive datagram source now).answer = .error fault ∧
      (r.receive datagram source now).registry = r := by
  rw [receive, failed]
  exact ⟨rfl, rfl⟩

theorem reply_of_settled (settled : p.isSettled) : (r.handle p source now).answer.reply = none := by
  obtain ⟨_, token, kind, gateway, body⟩ := p
  rw [reply_handle]
  cases kind with
  | pushData => exact absurd rfl settled.1
  | pullData => exact absurd rfl settled.2
  | _ => rfl

theorem silent_of_settled (decoded : Packet.decode datagram = .ok p) (settled : p.isSettled) :
    ∃ events, (r.receive datagram source now).answer = .ok ⟨none, events⟩ := by
  refine ⟨(r.handle p source now).answer.events, (receive_of_decode decoded).1.trans ?_⟩
  rw [← reply_of_settled settled]

theorem request_of_reply {dispatch : Dispatch} {reply : Outbound}
    (answered : (r.receive datagram source now).answer = .ok dispatch)
    (replied : dispatch.reply = some reply) :
    ∃ p, Packet.decode datagram = .ok p ∧
      ((p.kind = .pushData ∧ reply = ⟨source, .pushAck p.token⟩) ∨
        (p.kind = .pullData ∧ reply = ⟨source, .pullAck p.token⟩)) := by
  cases decoded : Packet.decode datagram with
  | error fault =>
    rw [(receive_of_fault decoded).1] at answered
    cases answered
  | ok p =>
    rw [(receive_of_decode decoded).1] at answered
    cases answered
    rw [reply_handle] at replied
    refine ⟨p, rfl, ?_⟩
    split at replied
    · next kind _ => exact .inl ⟨kind, (Option.some.inj replied).symm⟩
    · next kind _ => exact .inr ⟨kind, (Option.some.inj replied).symm⟩
    · cases replied

theorem handle_push {gateway : GatewayId} (kind : p.kind = .pushData)
    (names : p.gateway = some gateway) :
    (r.handle p source now).answer =
      ⟨some ⟨source, .pushAck p.token⟩, bodyEvents gateway p.body⟩ := by
  simp [handle, push, kind, names]

theorem handle_pull {gateway : GatewayId} (kind : p.kind = .pullData)
    (names : p.gateway = some gateway) :
    (r.handle p source now).answer = ⟨some ⟨source, .pullAck p.token⟩, []⟩ := by
  simp [handle, pull, kind, names]

theorem handle_pullResp (kind : p.kind = .pullResp) :
    (r.handle p source now).answer = ⟨none, []⟩ ∧ (r.handle p source now).registry = r := by
  simp [handle, kind, Dispatch.none]

theorem reply_echoes {dispatch : Dispatch} {reply : Outbound}
    (answered : (r.receive datagram source now).answer = .ok dispatch)
    (replied : dispatch.reply = some reply) :
    ∃ high low rest,
      (datagram = 1 :: high :: low :: 0 :: rest ∧ reply.packet.encode = .ok [1, high, low, 1]) ∨
      (datagram = 1 :: high :: low :: 2 :: rest ∧
        reply.packet.encode = .ok [1, high, low, 4]) := by
  obtain ⟨p, decoded, request⟩ := request_of_reply answered replied
  obtain ⟨-, -, high, low, rest, token, frame, -⟩ := Packet.decode_eq_ok.mp decoded
  have octets : p.token.octets = [high, low] := by rw [token, Token.octets_ofOctets]
  refine ⟨high, low, p.gatewayOctets ++ rest, ?_⟩
  rcases request with ⟨kind, rfl⟩ | ⟨kind, rfl⟩
  · rw [kind] at frame
    refine .inl ⟨frame, ?_⟩
    rw [Packet.encode_pushAck, octets]
    rfl
  · rw [kind] at frame
    refine .inr ⟨frame, ?_⟩
    rw [Packet.encode_pullAck, octets]
    rfl

/-- Every datagram is answered so, in every state of the registry. -/
theorem datagram_answered (r : Registry) (datagram : List UInt8) (source : Address)
    (now : Instant) : r.Answers datagram source now where
  push p decoded kind := by
    obtain ⟨gateway, names⟩ := Packet.gateway_of_decode decoded (by rw [kind]; rfl)
    obtain ⟨body, found⟩ := Packet.body_of_decode decoded kind
    refine ⟨gateway, body, names, found, ?_⟩
    rw [(receive_of_decode decoded).1, handle_push kind names, found]
    rfl
  pull p decoded kind := by
    obtain ⟨gateway, names⟩ := Packet.gateway_of_decode decoded (by rw [kind]; rfl)
    refine ⟨⟨gateway, names⟩, ?_⟩
    rw [(receive_of_decode decoded).1, handle_pull kind names]
  silent p decoded settled := silent_of_settled decoded settled
  unread fault failed := receive_of_fault failed
  ignored p decoded kind := by
    rw [(receive_of_decode decoded).1, (receive_of_decode decoded).2, (handle_pullResp kind).1,
      (handle_pullResp kind).2]
    exact ⟨rfl, rfl⟩
  echoes dispatch reply answered replied := by
    refine ⟨?_, reply_echoes answered replied⟩
    obtain ⟨p, -, ⟨-, rfl⟩ | ⟨-, rfl⟩⟩ := request_of_reply answered replied <;> rfl
  ends dispatch reply answered replied other address later := by
    obtain ⟨p, -, ⟨-, rfl⟩ | ⟨-, rfl⟩⟩ := request_of_reply answered replied
    · have settled : (Packet.pushAck p.token).isSettled := ⟨nofun, nofun⟩
      refine ⟨reply_of_settled settled, fun octets written => ?_⟩
      exact silent_of_settled (Packet.decode_of_bare rfl written) settled
    · have settled : (Packet.pullAck p.token).isSettled := ⟨nofun, nofun⟩
      refine ⟨reply_of_settled settled, fun octets written => ?_⟩
      exact silent_of_settled (Packet.decode_of_bare rfl written) settled

theorem datagram_answered_empty_push :
    let datagram : List UInt8 := [1, 0x12, 0x34, 0, 0, 0, 0, 0, 0, 0, 0, 7, 0x7B, 0x7D]
    let source : Address := ⟨"192.0.2.1:1700"⟩
    ((empty .standard).receive datagram source 0).answer =
        .ok ⟨some ⟨source, .pushAck ⟨0x1234⟩⟩, []⟩ ∧
      (Packet.pushAck ⟨0x1234⟩).encode = .ok [1, 0x12, 0x34, 1] ∧
      ∀ other : Registry, (other.handle (.pushAck ⟨0x1234⟩) source 1).answer.reply = none := by
  intro datagram source
  have answers := datagram_answered (empty .standard) datagram source 0
  have decoded : Packet.decode datagram =
      .ok (.pushData ⟨0x1234⟩ (GatewayId.ofNumber 7) .empty) := by decide +kernel
  obtain ⟨gateway, body, -, found, answer⟩ := answers.push _ decoded rfl
  cases found
  obtain ⟨-, high, low, rest, ⟨frame, written⟩ | ⟨frame, -⟩⟩ := answers.echoes _ _ answer rfl
  · unfold datagram at frame
    cases frame
    exact ⟨answer, written, fun other => (answers.ends _ _ answer rfl other source 1).1⟩
  · unfold datagram at frame
    cases frame

end Registry

end GatewayLink
