import GatewayLink.Proofs.Body.Writing
import GatewayLink.Proofs.Packet.RoundTrip

/-! Packets that can be written.
A packet is refused for its version, its gateway or the presence of its body, and then for what its body holds.
Nothing else is refused, and what is written keeps every time of the packet. -/

namespace GatewayLink

theorem PacketKind.namesGateway_iff {kind : PacketKind} :
    kind.namesGateway = true ↔ kind = .pushData ∨ kind = .pullData := by
  cases kind <;> simp [namesGateway]

namespace Packet

/-- The packet has the version of the protocol, and a gateway and a body if its kind has them. -/
structure Framed (p : Packet) : Prop where
  version : p.version = currentVersion
  gateway : p.gateway.isSome = true ↔ p.kind = .pushData ∨ p.kind = .pullData
  body : p.body.isSome = true ↔ p.kind = .pushData ∨ p.kind = .pullResp

structure Writable (p : Packet) : Prop extends Framed p where
  report : p.kind = .pushData → ∀ b ∈ p.body, b.Writable .uplink
  command : p.kind = .pullResp → ∀ b ∈ p.body, b.Writable .downlink

/-- The body has a part of the other direction. -/
def Misdirected (p : Packet) : Prop :=
  ∃ b, p.body = some b ∧
    (p.kind = .pushData ∧ b.HasForeign .uplink ∨ p.kind = .pullResp ∧ b.HasForeign .downlink)

/-- Why a packet cannot be written; the frame is looked at before the body. -/
inductive Refused (p : Packet) : Fault → Prop
  | version (other : p.version ≠ currentVersion) : Refused p (.packet (.version p.version))
  | gateway (version : p.version = currentVersion)
    (mismatch : ¬(p.gateway.isSome = true ↔ p.kind = .pushData ∨ p.kind = .pullData)) :
    Refused p (.packet (.gateway p.kind))
  | body (version : p.version = currentVersion)
    (gateway : p.gateway.isSome = true ↔ p.kind = .pushData ∨ p.kind = .pullData)
    (mismatch : ¬(p.body.isSome = true ↔ p.kind = .pushData ∨ p.kind = .pullResp)) :
    Refused p (.packet (.body p.kind))
  | report {b : Body} {fault : Fault} (framed : Framed p) (kind : p.kind = .pushData)
    (given : p.body = some b) (refused : b.Refused .uplink fault) : Refused p fault
  | command {b : Body} {fault : Fault} (framed : Framed p) (kind : p.kind = .pullResp)
    (given : p.body = some b) (refused : b.Refused .downlink fault) : Refused p fault

theorem gateway_iff {p : Packet} :
    p.kind.namesGateway = p.gateway.isSome ↔
      (p.gateway.isSome = true ↔ p.kind = .pushData ∨ p.kind = .pullData) := by
  rw [← PacketKind.namesGateway_iff, eq_comm, Bool.eq_iff_iff]

theorem checkBody_iff {p : Packet} :
    p.checkBody = .ok () ↔ (p.body.isSome = true ↔ p.kind = .pushData ∨ p.kind = .pullResp) ∧
      (p.kind = .pushData → ∀ b ∈ p.body, b.Writable .uplink) ∧
        (p.kind = .pullResp → ∀ b ∈ p.body, b.Writable .downlink) := by
  rw [checkBody]
  cases p.kind <;> cases p.body <;> simp [PacketKind.bodyDirection?, Body.check_iff]

theorem checkBody_eq_error {p : Packet} {fault : Fault} :
    p.checkBody = .error fault ↔
      ¬(p.body.isSome = true ↔ p.kind = .pushData ∨ p.kind = .pullResp) ∧
          fault = .packet (.body p.kind) ∨
        ∃ b, p.body = some b ∧ (p.kind = .pushData ∧ b.Refused .uplink fault ∨
          p.kind = .pullResp ∧ b.Refused .downlink fault) := by
  rw [checkBody]
  cases p.kind <;> cases p.body <;>
    simp [PacketKind.bodyDirection?, Body.check_eq_error, @eq_comm _ fault]

theorem check_iff {p : Packet} : p.check = .ok () ↔ p.Writable := by
  rw [check_eq_ok, gateway_iff, checkBody_iff]
  constructor
  · rintro ⟨version, gateway, body, report, command⟩
    exact ⟨⟨version, gateway, body⟩, report, command⟩
  · rintro ⟨⟨version, gateway, body⟩, report, command⟩
    exact ⟨version, gateway, body, report, command⟩

theorem check_framed {p : Packet} (version : p.version = currentVersion)
    (gateway : p.gateway.isSome = true ↔ p.kind = .pushData ∨ p.kind = .pullData) :
    p.check = p.checkBody := by
  rw [check, if_neg (not_not.mpr version), if_neg (not_not.mpr (gateway_iff.mpr gateway))]

theorem Refused.check {p : Packet} {fault : Fault} (refused : p.Refused fault) :
    p.check = .error fault := by
  cases refused with
  | version other => rw [Packet.check, if_pos other]
  | gateway version mismatch =>
    rw [Packet.check, if_neg (not_not.mpr version), if_pos (gateway_iff.not.mpr mismatch)]
  | body version gateway mismatch =>
    rw [check_framed version gateway]
    exact checkBody_eq_error.mpr (.inl ⟨mismatch, rfl⟩)
  | report framed kind given refused =>
    rw [check_framed framed.version framed.gateway]
    exact checkBody_eq_error.mpr (.inr ⟨_, given, .inl ⟨kind, refused⟩⟩)
  | command framed kind given refused =>
    rw [check_framed framed.version framed.gateway]
    exact checkBody_eq_error.mpr (.inr ⟨_, given, .inr ⟨kind, refused⟩⟩)

theorem refused_of_check {p : Packet} {fault : Fault} (failed : p.check = .error fault) :
    p.Refused fault := by
  by_cases version : p.version = currentVersion
  · by_cases gateway : p.gateway.isSome = true ↔ p.kind = .pushData ∨ p.kind = .pullData
    · rw [check_framed version gateway, checkBody_eq_error] at failed
      rcases failed with ⟨mismatch, rfl⟩ | ⟨b, given, ⟨kind, refused⟩ | ⟨kind, refused⟩⟩
      · exact .body version gateway mismatch
      · exact .report ⟨version, gateway, by simp [given, kind]⟩ kind given refused
      · exact .command ⟨version, gateway, by simp [given, kind]⟩ kind given refused
    · rw [check, if_neg (not_not.mpr version), if_pos (gateway_iff.not.mpr gateway)] at failed
      cases failed
      exact .gateway version gateway
  · rw [check, if_pos version] at failed
    cases failed
    exact .version version

theorem encode_eq_error {p : Packet} {fault : Fault} :
    p.encode = .error fault ↔ p.Refused fault := by
  have checked : p.encode = .error fault ↔ p.check = .error fault := by
    rw [encode]
    cases p.check <;> simp [Except.map]
  exact checked.trans ⟨refused_of_check, Refused.check⟩

theorem exists_encode_iff {p : Packet} : (∃ datagram, p.encode = .ok datagram) ↔ p.Writable := by
  simp only [encode_eq_ok, check_iff, exists_and_left, exists_eq', and_true]

theorem refused_schema_iff {p : Packet} :
    (∃ cause, p.Refused (.schema cause)) ↔ p.Framed ∧ p.Misdirected := by
  constructor
  · rintro ⟨_, _ | _ | _ | ⟨framed, kind, given, refused⟩ | ⟨framed, kind, given, refused⟩⟩
    · cases refused with
      | hasCommand foreign => exact ⟨framed, _, given, .inl ⟨kind, foreign⟩⟩
    · cases refused with
      | hasReport foreign => exact ⟨framed, _, given, .inr ⟨kind, foreign⟩⟩
  · rintro ⟨framed, b, given, ⟨kind, foreign⟩ | ⟨kind, foreign⟩⟩
    · exact ⟨_, .report framed kind given (.hasCommand foreign)⟩
    · exact ⟨_, .command framed kind given (.hasReport foreign)⟩

theorem Refused.schema_or_packet {p : Packet} {fault : Fault} (refused : p.Refused fault) :
    (∃ cause, fault = .schema cause) ∨ ∃ cause, fault = .packet cause := by
  cases refused with
  | version => exact .inr ⟨_, rfl⟩
  | gateway => exact .inr ⟨_, rfl⟩
  | body => exact .inr ⟨_, rfl⟩
  | report _ _ _ refused => cases refused <;> simp
  | command _ _ _ refused => cases refused <;> simp

theorem sameTimes_of_encode {p q : Packet} {datagram : List UInt8} (first : p.encode = .ok datagram)
    (second : q.encode = .ok datagram) : Option.Rel Body.SameTimes p.body q.body := by
  obtain ⟨checkedP, rfl⟩ := encode_eq_ok.mp first
  obtain ⟨checkedQ, same⟩ := encode_eq_ok.mp second
  have writableP := check_iff.mp checkedP
  have writableQ := check_iff.mp checkedQ
  simp only [octets, Token.octets, List.cons_append, List.nil_append, List.cons.injEq] at same
  obtain ⟨kind, octets⟩ := behind_gateway (gateway_iff.mpr writableP.gateway)
    (gateway_iff.mpr writableQ.gateway) (List.cons_eq_cons.mpr same.2.2.2).symm
  have present : p.body.isSome = true ↔ q.body.isSome = true := by
    rw [writableP.body, writableQ.body, kind]
  cases bodyP : p.body with
  | none =>
    cases bodyQ : q.body with
    | none => exact .none
    | some b => simp [bodyP, bodyQ] at present
  | some a =>
    cases bodyQ : q.body with
    | none => simp [bodyP, bodyQ] at present
    | some b =>
      refine .some ?_
      rcases writableP.body.mp (by rw [bodyP]; rfl) with way | way
      · have wayQ := kind.symm.trans way
        refine Body.sameTimes_of_octets (writableP.report way a bodyP) (writableQ.report wayQ b bodyQ) ?_
        simpa [bodyOctets, bodyP, bodyQ, way, wayQ, PacketKind.bodyDirection?] using octets
      · have wayQ := kind.symm.trans way
        refine Body.sameTimes_of_octets (writableP.command way a bodyP)
          (writableQ.command wayQ b bodyQ) ?_
        simpa [bodyOctets, bodyP, bodyQ, way, wayQ, PacketKind.bodyDirection?] using octets

/-- What can be written. A packet is written exactly if its version, its gateway and its body are those of its kind,
the body has the parts of its direction only, and no time is finer than its layout; otherwise it is refused for
the first of these that fails. Parts of the other direction are a fault of their own and everything else is a
fault of the packet. No time is lost: packets with other times are written as other datagrams. -/
theorem encode_accepts (p : Packet) :
    ((∃ datagram, p.encode = .ok datagram) ↔ p.Writable) ∧
    (∀ fault, p.encode = .error fault ↔ p.Refused fault) ∧
    ((∃ cause, p.encode = .error (.schema cause)) ↔ p.Framed ∧ p.Misdirected) ∧
    (∀ fault, p.encode = .error fault →
      (∃ cause, fault = .schema cause) ∨ ∃ cause, fault = .packet cause) ∧
    ∀ (q : Packet) (datagram : List UInt8), p.encode = .ok datagram → q.encode = .ok datagram →
      Option.Rel Body.SameTimes p.body q.body := by
  refine ⟨exists_encode_iff, fun fault => encode_eq_error, ?_, fun fault failed => ?_,
    fun q datagram => sameTimes_of_encode⟩
  · simp only [encode_eq_error, refused_schema_iff]
  · exact (encode_eq_error.mp failed).schema_or_packet

def frameAfter (nanos : Fin 1000000000) : UplinkFrame :=
  { lateFrame with time := some ⟨0, nanos, by decide, .inl nanos.isLt⟩ }

def fineBody : Body :=
  .uplink [frameAfter 1000, frameAfter 1001, frameAfter 1002]
    (some { StatusReport.empty with time := some ⟨0, 1, by decide⟩ })

theorem encode_accepts_second_frame :
    (pushData ⟨7⟩ (GatewayId.ofNumber 1) fineBody).encode =
      .error (.packet (.frameTime ⟨0, 1001, by decide⟩)) := by
  have split : fineBody.frames = [frameAfter 1000] ++ frameAfter 1001 :: [frameAfter 1002] := rfl
  have framed : (pushData ⟨7⟩ (GatewayId.ofNumber 1) fineBody).Framed := ⟨rfl, by decide, by decide⟩
  refine ((encode_accepts _).2.1 _).mpr (.report framed rfl rfl ?_)
  refine .frameTime (by simp [Body.HasForeign, fineBody, Body.uplink]) split ?_ rfl (by decide)
  rintro f member t time
  obtain rfl := List.mem_singleton.mp member
  cases time
  decide

end Packet

end GatewayLink
