import GatewayLink.Proofs.Registry.History

/-! Transmissions of downlinks.
What is outstanding is the packet that was sent first, so that every further transmission has the same octets,
and all of them go where the last keep-alive of the session came from. Whatever a registry sends can be
written. -/

namespace GatewayLink

structure Issue where
  command : DownlinkCommand
  first : Outbound

/-- The step submits a command for a gateway, which is sent under a token. -/
structure Step.Issues (gateway : GatewayId) (token : Token) (issue : Issue) (s : Step) : Prop where
  submits : ∃ now, s.action = .send gateway issue.command now
  sends : s.answer = .sent (.ok issue.first)
  numbered : issue.first.packet.token = token

def Answer.outbounds : Answer → List Outbound
  | .dispatched (.ok dispatch) => dispatch.reply.toList
  | .sent (.ok out) => [out]
  | .swept sweep => sweep.retransmissions
  | _ => []

theorem Packet.encode_of_check {p : Packet} (checked : p.check = .ok ()) :
    p.encode = .ok p.octets :=
  encode_eq_ok.mpr ⟨checked, rfl⟩

theorem Session.check_of_issue {s : Session} {command : DownlinkCommand} {token : Token}
    {route : Address} (issued : s.issue? command = some (token, route)) :
    (Packet.pullResp token command).check = .ok () := by
  unfold issue? at issued
  split at issued
  · split at issued
    · next checked =>
      cases issued
      exact checked
    · cases issued
  · cases issued

theorem Registry.packet_of_sent {r : Registry} {gateway : GatewayId} {command : DownlinkCommand}
    {now : Instant} {out : Outbound} (sent : (r.send gateway command now).answer = .ok out) :
    out.packet = .pullResp out.packet.token command ∧ out.packet.check = .ok () := by
  obtain ⟨session, issued, -, chosen, packet⟩ := exists_of_send_eq_ok now command sent
  have checked := Session.check_of_issue chosen
  rw [packet]
  exact ⟨rfl, checked⟩

namespace Step

variable {s : Step} {gateway : GatewayId} {token : Token}

theorem Issues.packet {issue : Issue} (issues : s.Issues gateway token issue) :
    issue.first.packet = .pullResp token issue.command ∧ issue.first.packet.check = .ok () := by
  obtain ⟨r, action⟩ := s
  obtain ⟨⟨now, rfl⟩, sends, rfl⟩ := issues
  have sent : (r.send gateway issue.command now).answer = .ok issue.first := by
    simpa [answer, outcome, Registry.perform, Outcome.map] using sends
  obtain ⟨packet, checked⟩ := Registry.packet_of_sent sent
  exact ⟨packet, checked⟩

theorem accepts_of_issues {issue : Issue} (issues : s.Issues gateway token issue) :
    s.accepts gateway token = true := by
  obtain ⟨⟨now, action⟩, sends, numbered⟩ := issues
  simp [accepts, action, sends, numbered]

theorem Issues.unique {issue other : Issue} (issues : s.Issues gateway token issue)
    (also : s.Issues gateway token other) : issue = other := by
  obtain ⟨command, first⟩ := issue
  obtain ⟨command', first'⟩ := other
  obtain ⟨⟨now, submits⟩, sends, -⟩ := issues
  obtain ⟨⟨now', submits'⟩, sends', -⟩ := also
  cases submits.symm.trans submits'
  cases sends.symm.trans sends'
  rfl

theorem exists_issue_of_accepts (accepts : s.accepts gateway token = true) :
    ∃ issue, s.Issues gateway token issue := by
  unfold Step.accepts at accepts
  split at accepts
  · next target command now out action sends =>
    obtain ⟨rfl, numbered⟩ := of_decide_eq_true accepts
    exact ⟨⟨command, out⟩, ⟨now, action⟩, sends, numbered⟩
  · cases accepts

theorem kept_of_downlink {p : Pending} (held : s.after.downlink? gateway token = some p) :
    s.closes gateway = false := by
  obtain ⟨session, found, -⟩ := Option.bind_eq_some_iff.mp held
  simp [closes, found]

theorem issued_or_kept {p : Pending} (held : s.after.downlink? gateway token = some p) :
    (∃ issue, s.Issues gateway token issue ∧ p.packet = issue.first.packet) ∨
      (∀ issue, ¬ s.Issues gateway token issue) ∧ s.closes gateway = false ∧
        ∃ q, s.before.downlink? gateway token = some q ∧ q.packet = p.packet := by
  have kept := kept_of_downlink held
  have silent {m : Marks} (marks : s.marks gateway token = m) (refused : m.accepted = 0)
      (issue : Issue) : ¬ s.Issues gateway token issue := by
    intro issues
    have accepts : (s.accepts gateway token).toNat = m.accepted := congrArg Marks.accepted marks
    rw [accepts_of_issues issues, refused] at accepts
    cases accepts
  cases s.turn gateway token with
  | nothing same marks _ => exact .inr ⟨silent marks rfl, kept, p, same.symm.trans held, rfl⟩
  | accepted command now action _ next _ marks =>
    have accepts : (s.accepts gateway token).toNat = 1 := congrArg Marks.accepted marks
    obtain ⟨issue, issues⟩ := exists_issue_of_accepts (Bool.toNat_eq_one.mp accepts)
    refine .inl ⟨issue, issues, ?_⟩
    obtain ⟨now', action'⟩ := issues.submits
    rw [action'] at action
    cases action
    cases next.symm.trans held
    exact issues.packet.1.symm
  | acked _ _ gone _ => cases gone.symm.trans held
  | withdrawn _ _ gone _ => cases gone.symm.trans held
  | retried q now session route _ before _ _ _ _ next marks =>
    refine .inr ⟨silent marks rfl, kept, q, before, ?_⟩
    cases next.symm.trans held
    rfl
  | failed _ _ _ _ _ _ _ _ gone _ => cases gone.symm.trans held
  | closed _ _ _ gone _ => cases gone.symm.trans held

end Step

namespace Registry

variable {policy : Policy} {actions : List Action} {gateway : GatewayId} {token : Token}

/-- What is outstanding under a token was issued last under it, in the current session. -/
theorem latest_issue {p : Pending}
    (held : ((empty policy).run actions).1.downlink? gateway token = some p) :
    ∃ issue, Latest gateway (Step.Issues gateway token) issue ((empty policy).steps actions) ∧
      p.packet = issue.first.packet := by
  induction actions using List.reverseRecOn generalizing p with
  | nil => simp [run, downlink?] at held
  | append_singleton actions action ih =>
    rw [run_concat] at held
    rw [steps_concat]
    -- the last step may have changed its deadline and retries, but not its packet
    rcases Step.issued_or_kept (s := ⟨((empty policy).run actions).1, action⟩) held with
      ⟨issue, issues, packet⟩ | ⟨unissued, kept, q, before, packet⟩
    · exact ⟨issue, latest_concat.mpr (.inl issues), packet⟩
    · obtain ⟨issue, latest, same⟩ := ih before
      exact ⟨issue, latest_concat.mpr (.inr ⟨unissued, kept, latest⟩), packet.symm.trans same⟩

theorem mem_resends {r : Registry} {now : Instant} {out : Outbound}
    (again : out ∈ r.resends now gateway token) :
    (r.session? gateway).bind Session.route = some out.address ∧
      ∃ p, r.downlink? gateway token = some p ∧ out.packet = p.packet := by
  unfold resends at again
  split at again
  · next s found =>
    split at again
    · cases again
    · split at again
      · next p held =>
        rw [Option.mem_toList] at again
        rw [downlink?, found]
        rcases p.fate_cases r.policy s.route now with
          ⟨-, fate⟩ | ⟨-, -, fate⟩ | ⟨address, -, routed, -, fate⟩
        · rw [fate] at again
          cases again
        · rw [fate] at again
          cases again
        · rw [fate] at again
          cases again
          exact ⟨routed, p, held, rfl⟩
      · cases again
  · cases again

theorem packet_of_downlink {p : Pending}
    (held : ((empty policy).run actions).1.downlink? gateway token = some p) :
    ∃ issue, Latest gateway (Step.Issues gateway token) issue ((empty policy).steps actions) ∧
      p.packet = issue.first.packet ∧ p.packet = .pullResp token issue.command ∧
      p.packet.encode = .ok p.packet.octets := by
  obtain ⟨issue, latest, same⟩ := latest_issue held
  obtain ⟨s, -, issues⟩ := latest.exists_marked
  obtain ⟨packet, checked⟩ := issues.packet
  exact ⟨issue, latest, same, same.trans packet, Packet.encode_of_check (same ▸ checked)⟩

theorem outbound_spec {action : Action} {out : Outbound}
    (sent : out ∈ (((empty policy).run actions).1.perform action).answer.outbounds) :
    (∃ octets, out.packet.encode = .ok octets) ∧
      (out.packet.kind = .pullResp → (∃ gateway command now, action = .send gateway command now) ∨
        ∃ now, action = .sweep now) := by
  have replied {p : Packet} {source : Address} {now : Instant}
      (sent : out ∈ (((empty policy).run actions).1.handle p source now).answer.reply) :
      (∃ octets, out.packet.encode = .ok octets) ∧ out.packet.kind ≠ .pullResp := by
    rw [reply_handle] at sent
    split at sent
    · cases sent
      exact ⟨⟨_, rfl⟩, nofun⟩
    · cases sent
      exact ⟨⟨_, rfl⟩, nofun⟩
    · cases sent
  cases action with
  | receive datagram source now =>
    simp only [perform, Outcome.map, receive] at sent
    cases decoded : Packet.decode datagram with
    | error fault =>
      rw [decoded] at sent
      cases sent
    | ok p =>
      rw [decoded] at sent
      exact (replied (Option.mem_toList.mp sent)).imp_right fun other kind => absurd kind other
  | handle p source now =>
    exact (replied (Option.mem_toList.mp sent)).imp_right fun other kind => absurd kind other
  | send gateway command now =>
    simp only [perform, Outcome.map] at sent
    cases answered : (((empty policy).run actions).1.send gateway command now).answer with
    | error fault =>
      rw [answered] at sent
      cases sent
    | ok first =>
      rw [answered] at sent
      cases List.mem_singleton.mp sent
      refine ⟨⟨_, Packet.encode_of_check (packet_of_sent answered).2⟩, fun _ => .inl ?_⟩
      exact ⟨gateway, command, now, rfl⟩
  | cancel gateway token => cases sent
  | sweep now =>
    have sent : out ∈ (((empty policy).run actions).1.sweep now).answer.retransmissions := sent
    rw [retransmissions_eq_resends, List.mem_flatMap] at sent
    obtain ⟨⟨gateway, s⟩, -, sent⟩ := sent
    obtain ⟨token, -, again⟩ := List.mem_flatMap.mp sent
    obtain ⟨-, p, held, same⟩ := mem_resends again
    obtain ⟨-, -, -, -, written⟩ := packet_of_downlink held
    exact ⟨⟨_, same ▸ written⟩, fun _ => .inr ⟨now, rfl⟩⟩
  | shutdown => cases sent

/-- Every outstanding packet is that of the command issued last under its token, and can be written. What is
sent for it, the first time or again, has the same octets and goes where the last keep-alive of the session
came from. Whatever is sent can be written. -/
theorem transmissions_follow_route (policy : Policy) (actions : List Action) :
    let steps := (empty policy).steps actions
    let r := ((empty policy).run actions).1
    (∀ gateway token p, r.downlink? gateway token = some p →
      ∃ issue, Latest gateway (Step.Issues gateway token) issue steps ∧
        p.packet = ⟨1, token, .pullResp, none, some ⟨[], none, some issue.command⟩⟩ ∧
        ∃ octets, p.packet.encode = .ok octets) ∧
    (∀ gateway command now out, (r.send gateway command now).answer = .ok out →
      out.packet = ⟨1, out.packet.token, .pullResp, none, some ⟨[], none, some command⟩⟩ ∧
        Latest gateway (Step.keepsAlive gateway) out.address steps) ∧
    (∀ now, (r.sweep now).answer.retransmissions =
      r.sessions.toList.flatMap fun (gateway, s) =>
        s.outstanding.flatMap fun token => r.resends now gateway token) ∧
    (∀ now gateway token out, out ∈ r.resends now gateway token →
      ∃ issue, Latest gateway (Step.Issues gateway token) issue steps ∧
        out.packet.encode = issue.first.packet.encode ∧
        Latest gateway (Step.keepsAlive gateway) out.address steps) ∧
    ∀ action, ∀ out ∈ (r.perform action).answer.outbounds,
      (∃ octets, out.packet.encode = .ok octets) ∧
        (out.packet.kind = .pullResp →
          (∃ gateway command now, action = .send gateway command now) ∨
            ∃ now, action = .sweep now) := by
  intro steps r
  refine ⟨fun gateway token p held => ?_, fun gateway command now out sent => ?_,
    fun now => r.retransmissions_eq_resends now, fun now gateway token out again => ?_,
    fun action out sent => outbound_spec sent⟩
  · obtain ⟨issue, latest, -, packet, written⟩ := packet_of_downlink held
    exact ⟨issue, latest, packet, _, written⟩
  · refine ⟨(packet_of_sent sent).1, ?_⟩
    exact (route_eq_some_iff policy actions gateway out.address).mp (route_of_sent sent)
  · obtain ⟨routed, p, held, same⟩ := mem_resends again
    obtain ⟨issue, latest, first, -⟩ := packet_of_downlink held
    refine ⟨issue, latest, by rw [same, first], ?_⟩
    exact (route_eq_some_iff policy actions gateway out.address).mp routed

/-- A downlink that was sent to one address is sent again to the next, with the same octets. -/
theorem transmissions_follow_route_moved :
    let gateway := GatewayId.ofNumber 1
    let source : Address := ⟨"192.0.2.1:1700"⟩
    let next : Address := ⟨"192.0.2.2:1700"⟩
    let command := DownlinkCommand.plain ⟨0x408B200000000000⟩ 14 (.fsk 50000) [1]
    let actions := [.handle (.pullData ⟨7⟩ gateway) source 0, .send gateway command 5,
      .handle (.pullData ⟨8⟩ gateway) next 6]
    let r := ((empty .standard).run actions).1
    ⟨next, .pullResp ⟨0⟩ command⟩ ∈ r.resends 2005 gateway ⟨0⟩ ∧
      ∃ issue, Latest gateway (Step.Issues gateway ⟨0⟩) issue ((empty .standard).steps actions) ∧
        (Packet.pullResp ⟨0⟩ command).encode = issue.first.packet.encode ∧
        Latest gateway (Step.keepsAlive gateway) next ((empty .standard).steps actions) := by
  intro gateway source next command actions r
  have again : ⟨next, .pullResp ⟨0⟩ command⟩ ∈ r.resends 2005 gateway ⟨0⟩ := by decide +kernel
  exact ⟨again, (transmissions_follow_route .standard actions).2.2.2.1 2005 gateway ⟨0⟩ _ again⟩

end Registry

end GatewayLink
