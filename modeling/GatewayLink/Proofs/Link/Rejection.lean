import GatewayLink.Link.Server
import GatewayLink.Proofs.Packet.Length
import GatewayLink.Proofs.Registry.Retry
import GatewayLink.Proofs.Registry.Submission

/-! Submissions that give the caller no token.
A command that the registry refuses leaves no downlink, and nothing is ever sent or reported for it. One that the
socket refuses has been entered before: its downlink is the only one that is new, and the sweeps treat it like any
other. -/

namespace GatewayLink

theorem Step.overdue {r : Registry} {gateway : GatewayId} {token : Token} {p : Pending} {now : Instant}
    (held : r.downlink? gateway token = some p) (due : p.deadline ≤ now) :
    (∃ route, (Step.mk r (.sweep now)).marks gateway token = ⟨0, 0, 0, 0, [⟨route, p.packet⟩]⟩) ∨
      (Step.mk r (.sweep now)).marks gateway token = ⟨0, 0, 1, 0, []⟩ := by
  obtain ⟨session, found, -⟩ := Option.bind_eq_some_iff.mp held
  obtain ⟨-, swept⟩ := sweep_of_found gateway token now found
  cases (Step.mk r (.sweep now)).turn gateway token with
  | nothing _ _ early => exact absurd due (Nat.not_le_of_lt (early p now held rfl))
  | accepted _ _ action => cases action
  | acked _ _ _ marks => cases congrArg Marks.acked (swept.symm.trans marks)
  | withdrawn _ _ _ marks => cases congrArg Marks.withdrawn (swept.symm.trans marks)
  | retried _ _ _ route _ outstanding _ _ _ _ _ marks =>
    cases held.symm.trans outstanding
    exact .inl ⟨route, marks⟩
  | failed _ _ _ _ _ _ _ _ _ marks => exact .inr marks
  | closed _ _ _ _ marks => exact .inr marks

namespace Registry

variable {r : Registry} {gateway : GatewayId} {s : Session}

theorem downlink?_of_found (found : r.session? gateway = some s) (token : Token) :
    r.downlink? gateway token = s.pending[token]? := by
  rw [downlink?, found, Option.bind_some]

theorem downlink?_setSession (other : GatewayId) (token : Token) :
    (r.setSession gateway s).downlink? other token =
      if gateway = other then s.pending[token]? else r.downlink? other token := by
  rw [downlink?, session?_setSession]
  split <;> rfl

theorem downlink?_of_refused {command : DownlinkCommand} {now : Instant} {fault : SessionFault}
    (refused : (r.send gateway command now).answer = .error fault) (other : GatewayId)
    (token : Token) :
    (r.send gateway command now).registry.downlink? other token = r.downlink? other token := by
  have outcome := r.submission gateway command now
  generalize r.send gateway command now = o at outcome refused
  cases outcome with
  | unknown | unrouted | exhausted => rfl
  | unwritable s _ _ _ found =>
    rw [downlink?_setSession]
    split
    · next own => rw [← own, downlink?_of_found found]
    · rfl
  | accepted => cases refused

theorem downlink?_of_accepted {command : DownlinkCommand} {now : Instant} {out : Outbound}
    (accepted : (r.send gateway command now).answer = .ok out) :
    ∃ route token, out = ⟨route, .pullResp token command⟩ ∧ r.downlink? gateway token = none ∧
      ∀ other t, (r.send gateway command now).registry.downlink? other t =
        if other = gateway ∧ t = token then
          some ⟨.pullResp token command, now + r.policy.ackTimeout.toNat, 0⟩
        else r.downlink? other t := by
  have outcome := r.submission gateway command now
  generalize r.send gateway command now = o at outcome accepted
  cases outcome with
  | unknown | unrouted | exhausted | unwritable => cases accepted
  | accepted s route token found _ next =>
    cases accepted
    refine ⟨route, token, rfl, ?_, fun other t => ?_⟩
    · rw [downlink?_of_found found,
        Std.ExtTreeMap.getElem?_eq_none_of_contains_eq_false next.free]
    · simp only [downlink?_setSession, Std.ExtTreeMap.getElem?_insert,
        Std.LawfulEqOrd.compare_eq_iff_eq]
      by_cases own : gateway = other
      · subst own
        rw [if_pos rfl, downlink?_of_found found]
        by_cases same : token = t
        · rw [if_pos same, if_pos ⟨rfl, same.symm⟩]
        · rw [if_neg same, if_neg fun both => same both.2.symm]
      · rw [if_neg own, if_neg fun both => own both.1.symm]

end Registry

namespace Server

/-- What a submission that fails has done to the registry. -/
inductive Rejection (socket : Socket) (before : Registry) (gateway : GatewayId)
    (command : DownlinkCommand) (now : Instant) (after : Registry) : SubmitFault → Prop where
  /-- The registry refuses: the same downlinks are outstanding, and nothing is said of the others. -/
  | refused (fault : SessionFault)
    (same : ∀ other token, after.downlink? other token = before.downlink? other token)
    (silent : ∀ other token, before.downlink? other token = none → ∀ actions,
      (∀ step ∈ after.steps actions, step.accepts other token = false) →
        ∀ step ∈ after.steps actions, step.marks other token = .none) :
    Rejection socket before gateway command now after (.session fault)
  /-- The socket refuses: a downlink is outstanding that was not, and a sweep that reaches its deadline sends it
  again or reports that it failed. -/
  | unsent (route : Address) (token : Token)
    (packet : (before.send gateway command now).answer = .ok ⟨route, .pullResp token command⟩)
    (untaken : socket ⟨route, .pullResp token command⟩ = false)
    (free : before.downlink? gateway token = none)
    (entered : ∀ other t, after.downlink? other t =
      if other = gateway ∧ t = token then
        some ⟨.pullResp token command, now + before.policy.ackTimeout.toNat, 0⟩
      else before.downlink? other t)
    (lingers : ∀ later, now + before.policy.ackTimeout.toNat ≤ later →
      let step : Step := ⟨after, .sweep later⟩
      (∃ route, step.marks gateway token = ⟨0, 0, 0, 0, [⟨route, .pullResp token command⟩]⟩) ∨
        step.marks gateway token = ⟨0, 0, 1, 0, []⟩) :
    Rejection socket before gateway command now after .notSent

variable {socket : Socket} {s : Server} {gateway : GatewayId} {command : DownlinkCommand} {now : Instant}

/-- A submission fails because the registry refuses it, and then it leaves nothing, or because the socket does, and
then it leaves its downlink. -/
theorem submit_rejection {fault : SubmitFault}
    (failed : (s.submit socket gateway command now).1 = .error fault) :
    Rejection socket s.registry gateway command now
      (s.submit socket gateway command now).2.registry fault := by
  rw [registry_submit]
  rw [result_submit] at failed
  cases answer : (s.registry.send gateway command now).answer with
  | error cause =>
    rw [answer] at failed
    cases failed
    have same := Registry.downlink?_of_refused answer
    refine .refused cause same fun other token free actions refuses => ?_
    exact (Registry.silent_run ((same other token).trans free) refuses).1
  | ok out =>
    rw [answer] at failed
    obtain ⟨route, token, rfl, free, entered⟩ := Registry.downlink?_of_accepted answer
    cases taken : socket ⟨route, .pullResp token command⟩ with
    | true => simp [taken] at failed
    | false =>
      obtain rfl : fault = .notSent := by simpa [taken, eq_comm] using failed
      refine .unsent route token answer taken free entered fun later due => ?_
      have held := entered gateway token
      rw [if_pos ⟨rfl, rfl⟩] at held
      exact Step.overdue held due

theorem submit_oversize {out : Outbound} (long : longestDatagram ≤ command.octets.length)
    (accepted : (s.registry.send gateway command now).answer = .ok out) :
    (s.submit .datagram gateway command now).1 = .error .notSent := by
  obtain ⟨route, token, rfl, -⟩ := Registry.downlink?_of_accepted accepted
  have longer := Packet.length_pullResp_gt token command
  have untaken : Socket.datagram ⟨route, .pullResp token command⟩ = false := by
    rw [Socket.datagram, decide_eq_false_iff_not]
    dsimp only
    omega
  rw [result_submit, accepted]
  dsimp only
  rw [untaken, if_neg Bool.false_ne_true]

/-- A gateway that has just sent a keep-alive. -/
def pulled : Server :=
  { start .standard with
    registry :=
      ((Registry.empty .standard).handle (.pullData ⟨7⟩ (.ofNumber 1)) ⟨"192.0.2.1:1700"⟩ 0).registry }

def oversized : DownlinkCommand :=
  .plain ⟨0x408B200000000000⟩ 14 (.fsk 50000) (List.replicate longestDatagram 0)

theorem submit_oversized :
    (pulled.submit .datagram (.ofNumber 1) oversized 5).1 = .error .notSent := by
  have long : longestDatagram ≤ oversized.octets.length := Nat.le_of_eq List.length_replicate.symm
  have accepted : (pulled.registry.send (.ofNumber 1) oversized 5).answer.toOption.isSome = true := by
    decide +kernel
  cases answer : (pulled.registry.send (.ofNumber 1) oversized 5).answer with
  | error fault => simp [answer, Except.toOption] at accepted
  | ok out => exact submit_oversize long answer

theorem submit_rejection_oversized :
    (pulled.submit .datagram (.ofNumber 1) oversized 5).1 = .error .notSent ∧
      Rejection .datagram pulled.registry (.ofNumber 1) oversized 5
        (pulled.submit .datagram (.ofNumber 1) oversized 5).2.registry .notSent :=
  ⟨submit_oversized, submit_rejection submit_oversized⟩

/-- The submission fails, and a downlink is outstanding that was not. A sweep sends it, the next one reports that
it failed, under a token that the caller was never given. -/
theorem submit_leaves_oversized :
    let gateway := GatewayId.ofNumber 1
    let after := (pulled.submit .datagram gateway oversized 5).2.registry
    (pulled.submit .datagram gateway oversized 5).1 = .error .notSent ∧
      pulled.registry.isOutstanding gateway ⟨0⟩ = false ∧ after.isOutstanding gateway ⟨0⟩ = true ∧
      (after.sweep 2005).answer.retransmissions.map (fun out => (out.address, out.packet.token)) =
        [(⟨"192.0.2.1:1700"⟩, ⟨0⟩)] ∧
      ((after.sweep 2005).registry.sweep 4005).answer.events = [.downlinkFailed gateway ⟨0⟩] := by
  refine ⟨submit_oversized, ?_, ?_, ?_, ?_⟩ <;> decide +kernel

end Server

end GatewayLink
