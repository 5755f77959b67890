import GatewayLink.Proofs.Registry.History

/-! Acknowledgments and the gateways they count for.
An acknowledgment names no gateway: it counts for the one that the address it comes from belongs to. That is
the gateway of the last request from there, so the acknowledgment of a downlink that comes from where the
downlink went confirms it unless another gateway was heard from that address in between. -/

namespace GatewayLink

namespace Action

def requester? (address : Address) (action : Action) : Option GatewayId :=
  action.request?.bind fun (gateway, source) => if source = address then some gateway else none

/-- The gateway whose request came from an address last. -/
def lastRequester? (address : Address) (actions : List Action) : Option GatewayId :=
  actions.reverse.findSome? (requester? address)

theorem requester?_eq_some {address : Address} {action : Action} {gateway : GatewayId} :
    action.requester? address = some gateway ↔ action.request? = some (gateway, address) := by
  simp only [requester?, Option.bind_eq_some_iff, Prod.exists]
  constructor
  · rintro ⟨owner, source, request, chosen⟩
    split at chosen
    · next here =>
      cases chosen
      rw [request, here]
    · cases chosen
  · intro request
    exact ⟨gateway, address, request, if_pos rfl⟩

theorem lastRequester?_concat (address : Address) (actions : List Action) (action : Action) :
    lastRequester? address (actions ++ [action]) =
      (action.requester? address).or (lastRequester? address actions) := by
  rw [lastRequester?, List.reverse_concat, List.findSome?_cons]
  cases action.requester? address <;> rfl

end Action

/-- What the acknowledgment of a token does, whatever its kind: it takes the downlink of the token out of the
session that its source belongs to, or counts as stale there, and from a stranger it does nothing. -/
structure Step.Settles (s : Step) (token : Token) (source : Address) (now : Instant) : Prop where
  confirms : ∀ gateway session, s.before.peers[source]? = some gateway →
    s.before.session? gateway = some session → session.pending.contains token = true →
    s.answer = .dispatched (.ok ⟨none, [.downlinkAcked gateway token]⟩) ∧
      s.after = s.before.setSession gateway { session with
        lastSeen := max session.lastSeen now, pending := session.pending.erase token }
  stale : ∀ gateway session, s.before.peers[source]? = some gateway →
    s.before.session? gateway = some session → session.pending.contains token = false →
    s.answer = .dispatched (.ok ⟨none, []⟩) ∧
      s.after = s.before.setSession gateway { session with
        lastSeen := max session.lastSeen now, staleAcks := session.staleAcks + 1 }
  stranger : s.before.peers[source]? = none →
    s.answer = .dispatched (.ok ⟨none, []⟩) ∧ s.after = s.before
  opens_none : ∀ gateway, s.after.isActive gateway = s.before.isActive gateway

namespace Registry

variable {r : Registry} {p : Packet} {source : Address} {now : Instant}

theorem handle_of_ack (kind : p.kind = .pushAck ∨ p.kind = .pullAck) :
    r.handle p source now = r.acknowledge p.kind p.token source now := by
  rcases kind with kind | kind <;> simp [handle, kind]

theorem acknowledge_congr (r : Registry) (source : Address) (now : Instant)
    (kind other : PacketKind) (token : Token) :
    (r.acknowledge kind token source now).answer = (r.acknowledge other token source now).answer ∧
      (r.acknowledge kind token source now).registry =
        (r.acknowledge other token source now).registry := by
  refine ⟨(answer_acknowledge r token source now kind).trans
    (answer_acknowledge r token source now other).symm, ?_⟩
  cases known : r.peer? source with
  | none =>
    rw [registry_acknowledge_stranger token now kind known,
      registry_acknowledge_stranger token now other known]
  | some entry =>
    rw [registry_acknowledge_known token now kind known,
      registry_acknowledge_known token now other known]

theorem perform_congr_of_acks {action other : Action} {q : Packet}
    (brought : action.heard? = some (p, source, now)) (kind : p.kind = .pushAck ∨ p.kind = .pullAck)
    (heard : other.heard? = some (q, source, now)) (acks : q.kind = .pushAck ∨ q.kind = .pullAck)
    (same : q.token = p.token) :
    (r.perform other).answer = (r.perform action).answer ∧
      (r.perform other).registry = (r.perform action).registry := by
  obtain ⟨answer, registry⟩ := perform_of_heard (r := r) brought
  obtain ⟨answer', registry'⟩ := perform_of_heard (r := r) heard
  rw [handle_of_ack kind] at answer registry
  rw [handle_of_ack acks, same] at answer' registry'
  have alike := acknowledge_congr r source now q.kind p.kind p.token
  rw [answer, answer', registry, registry', alike.1]
  exact ⟨rfl, alike.2⟩

end Registry

namespace Step

open Registry

theorem settles {s : Step} {p : Packet} {source : Address} {now : Instant}
    (brought : s.action.heard? = some (p, source, now))
    (kind : p.kind = .pushAck ∨ p.kind = .pullAck) : s.Settles p.token source now := by
  obtain ⟨r, action⟩ := s
  obtain ⟨answer, registry⟩ := perform_of_heard (r := r) brought
  rw [handle_of_ack kind] at answer registry
  rw [answer_acknowledge] at answer
  have found {gateway : GatewayId} {session : Session} (owned : r.peers[source]? = some gateway)
      (there : r.session? gateway = some session) : r.peer? source = some (gateway, session) :=
    peer?_eq_some.mpr ⟨owned, there⟩
  refine ⟨fun gateway session owned there outstanding => ?_,
    fun gateway session owned there free => ?_, fun unknown => ?_, fun gateway => ?_⟩
  · refine ⟨answer.trans ?_, registry.trans ?_⟩
    · rw [found owned there]
      simp [outstanding]
    · rw [registry_acknowledge_known p.token now p.kind (found owned there),
        Session.acknowledged, if_pos outstanding]
      rfl
  · refine ⟨answer.trans ?_, registry.trans ?_⟩
    · rw [found owned there]
      simp [free]
    · rw [registry_acknowledge_known p.token now p.kind (found owned there),
        Session.acknowledged, if_neg (by simp [free])]
      rfl
  · have stranger : r.peer? source = none := by simp [peer?, unknown]
    refine ⟨answer.trans ?_, registry.trans ?_⟩
    · rw [stranger]
    · rw [registry_acknowledge_stranger p.token now p.kind stranger]
  · rw [isActive_eq, isActive_eq]
    refine (congrArg (fun r : Registry => (r.session? gateway).isSome) registry).trans ?_
    rw [session?_acknowledge]
    split
    · rw [Option.isSome_map]
    · rfl

theorem Settles.spares {s : Step} {token : Token} {source : Address} {now : Instant}
    {gateway : GatewayId} (settles : s.Settles token source now)
    (live : ∀ owner, s.before.peers[source]? = some owner →
      (s.before.session? owner).isSome = true)
    (foreign : s.before.peers[source]? ≠ some gateway) :
    (∀ other, .downlinkAcked gateway other ∉ s.events) ∧
      s.after.session? gateway = s.before.session? gateway := by
  cases owned : s.before.peers[source]? with
  | none =>
    obtain ⟨answer, same⟩ := settles.stranger owned
    rw [same, events, answer]
    exact ⟨fun _ => List.not_mem_nil, rfl⟩
  | some owner =>
    obtain ⟨session, found⟩ := Option.isSome_iff_exists.mp (live owner owned)
    have different : owner ≠ gateway := fun same => foreign (same ▸ owned)
    cases outstanding : session.pending.contains token with
    | true =>
      obtain ⟨answer, after⟩ := settles.confirms owner session owned found outstanding
      rw [after, events, answer, session?_setSession, if_neg different]
      exact ⟨fun other => by simp [Answer.events, different.symm], rfl⟩
    | false =>
      obtain ⟨answer, after⟩ := settles.stale owner session owned found outstanding
      rw [after, events, answer, session?_setSession, if_neg different]
      exact ⟨fun _ => List.not_mem_nil, rfl⟩

end Step

namespace Registry

/-- An address belongs to the gateway of the last request from it, if that has been neither evicted nor shut
down since, so that it has a session. An acknowledgment confirms a downlink of this gateway or is stale there,
without a reply and whatever its kind. -/
theorem acknowledgment_attributed (policy : Policy) (actions : List Action) :
    let r := ((empty policy).run actions).1
    let steps := (empty policy).steps actions
    (∀ (address : Address) gateway, r.peers[address]? = some gateway ↔
      Latest gateway (Step.asks address) gateway steps) ∧
    (∀ s ∈ steps, ∀ gateway, s.closes gateway = true ↔
      (s.before.session? gateway).isSome = true ∧ (s.action = .shutdown ∨
        ∃ now, s.action = .sweep now ∧ s.before.evicts now gateway = true)) ∧
    (∀ (address : Address) gateway, r.peers[address]? = some gateway →
      r.isActive gateway = true) ∧
    ∀ action p source now, action.heard? = some (p, source, now) →
      (p.kind = .pushAck ∨ p.kind = .pullAck) →
        (Step.mk r action).Settles p.token source now ∧
        ∀ other q, other.heard? = some (q, source, now) → (q.kind = .pushAck ∨ q.kind = .pullAck) →
          q.token = p.token →
            (r.perform other).answer = (r.perform action).answer ∧
              (r.perform other).registry = (r.perform action).registry := by
  intro r steps
  refine ⟨fun address gateway => peers_eq_some_iff policy actions gateway address,
    fun s _ gateway => s.closes_iff gateway, fun address gateway owned => ?_,
    fun action p source now brought kind => ?_⟩
  · rw [isActive_eq, isSome_of_owned owned]
  · refine ⟨Step.settles brought kind, fun other q heard acks same => ?_⟩
    exact perform_congr_of_acks brought kind heard acks same

/-- The acknowledgment of a datagram confirms the downlink that went to its source. -/
theorem acknowledgment_attributed_received :
    let gateway := GatewayId.ofNumber 1
    let source : Address := ⟨"192.0.2.1:1700"⟩
    let command := DownlinkCommand.plain ⟨0x408B200000000000⟩ 14 (.fsk 50000) [1]
    let r := ((empty .standard).run
      [.handle (.pullData ⟨7⟩ gateway) source 0, .send gateway command 5]).1
    r.peers[source]? = some gateway ∧
      (r.perform (.receive [1, 0, 0, 1] source 9)).answer =
        .dispatched (.ok ⟨none, [.downlinkAcked gateway ⟨0⟩]⟩) := by
  intro gateway source command r
  have attributed := acknowledgment_attributed .standard
    [.handle (.pullData ⟨7⟩ gateway) source 0, .send gateway command 5]
  have owned : r.peers[source]? = some gateway := by decide +kernel
  have held : (r.session? gateway).all fun s => s.pending.contains ⟨0⟩ := by decide +kernel
  have active := attributed.2.2.1 source gateway owned
  rw [isActive_eq] at active
  obtain ⟨session, found⟩ := Option.isSome_iff_exists.mp active
  rw [found] at held
  have settles := (attributed.2.2.2 (.receive [1, 0, 0, 1] source 9) (.pushAck ⟨0⟩) source 9
    (by decide) (.inl rfl)).1
  exact ⟨owned, (settles.confirms gateway session owned found held).1⟩

theorem outstanding_of_sent {r : Registry} {gateway : GatewayId} {command : DownlinkCommand}
    {now : Instant} {out : Outbound} (sent : (r.send gateway command now).answer = .ok out) :
    ∃ s, (r.send gateway command now).registry.session? gateway = some s ∧
      s.pending.contains out.packet.token = true := by
  obtain ⟨session, token, found, issued, packet⟩ := exists_of_send_eq_ok now command sent
  refine ⟨session.submitted r.policy command now, ?_, ?_⟩
  · rw [session?_send, if_pos rfl, found, Option.map_some]
  · rw [Std.ExtTreeMap.contains_eq_isSome_getElem?, Session.pending_submitted, issued, packet]
    simp [Packet.pullResp]

theorem owns_route_iff {policy : Policy} {gateway : GatewayId} {address : Address}
    {actions : List Action}
    (routed : (((empty policy).run actions).1.share gateway).route? = some address) :
    (((empty policy).run actions).1.share gateway).owns address = true ↔
      Action.lastRequester? address actions = some gateway := by
  induction actions using List.reverseRecOn with
  | nil =>
    rw [run, share_empty] at routed
    cases routed
  | append_singleton actions action ih =>
    have change := Step.change ⟨((empty policy).run actions).1, action⟩ gateway
    have owns := change.owns (live_run policy actions gateway) address
    rw [run_concat] at routed ⊢
    rw [Action.lastRequester?_concat]
    -- the route was set by a keep-alive, a request from the address, or it is an old one
    rcases (change.route? address).mp routed with asked | ⟨-, kept, before⟩
    · have request := Action.request?_of_keepAlive asked
      rw [Action.requester?_eq_some.mpr request, Option.some_or]
      exact iff_of_true (owns.mpr (.inl request)) rfl
    · cases requester : action.requester? address with
      | none =>
        have unasked (other : GatewayId) : action.request? ≠ some (other, address) := by
          intro request
          rw [← Action.requester?_eq_some, requester] at request
          cases request
        rw [Option.none_or, ← ih before]
        refine ⟨fun owned => ?_, fun owned => owns.mpr (.inr ⟨unasked, kept, owned⟩)⟩
        exact ((owns.mp owned).resolve_left (unasked gateway)).2.2
      | some owner =>
        have request := Action.requester?_eq_some.mp requester
        rw [Option.some_or]
        refine ⟨fun owned => ?_, fun same => owns.mpr (.inl (by rw [request, Option.some.inj same]))⟩
        rcases owns.mp owned with own | ⟨unasked, -⟩
        · rw [request] at own
          cases own
          rfl
        · exact absurd request (unasked owner)

/-- What becomes of a downlink that is acknowledged, right after it was sent, from where it went: it is
confirmed exactly if the last request from there was one of its gateway. Otherwise its session does not see
the acknowledgment. -/
theorem acknowledgment_from_route (policy : Policy) (actions : List Action) (gateway : GatewayId)
    (command : DownlinkCommand) (now : Instant) (out : Outbound)
    (sent : (((empty policy).run actions).1.send gateway command now).answer = .ok out)
    (next : Action) (ack : Packet) (later : Instant)
    (brought : next.heard? = some (ack, out.address, later)) (kind : ack.kind = .pullAck)
    (same : ack.token = out.packet.token) :
    let r := (((empty policy).run actions).1.send gateway command now).registry
    let s := Step.mk r next
    (Action.lastRequester? out.address actions = some gateway →
      s.answer = .dispatched (.ok ⟨none, [.downlinkAcked gateway out.packet.token]⟩) ∧
      (∀ token, s.after.downlink? gateway token =
        if out.packet.token = token then none else r.downlink? gateway token) ∧
      ∀ other, other ≠ gateway → s.after.session? other = r.session? other) ∧
    (Action.lastRequester? out.address actions ≠ some gateway →
      .downlinkAcked gateway out.packet.token ∉ s.events ∧
      s.after.session? gateway = r.session? gateway ∧
      r.isOutstanding gateway out.packet.token = true) := by
  intro r s
  obtain ⟨session, held, outstanding⟩ := outstanding_of_sent sent
  have along : r = ((empty policy).run (actions ++ [.send gateway command now])).1 := by
    rw [run_concat]
    rfl
  have live (owner : GatewayId) (owned : r.peers[out.address]? = some owner) :
      (r.session? owner).isSome = true := by
    rw [along] at owned ⊢
    exact isSome_of_owned owned
  have owns : r.peers[out.address]? = some gateway ↔
      Action.lastRequester? out.address actions = some gateway := by
    rw [← owns_route_iff (route_of_sent sent), owns_share, peers_send]
  have settles : s.Settles out.packet.token out.address later :=
    same ▸ Step.settles brought (.inr kind)
  refine ⟨fun last => ?_, fun last => ?_⟩
  · obtain ⟨answer, after⟩ := settles.confirms gateway session (owns.mpr last) held outstanding
    refine ⟨answer, fun token => ?_, fun other different => ?_⟩
    · rw [after, downlink?, session?_setSession, if_pos rfl, downlink?, held]
      exact Std.ExtTreeMap.getElem?_erase.trans (by simp)
    · rw [after, session?_setSession, if_neg different.symm]
  · obtain ⟨silent, unchanged⟩ := settles.spares live (mt owns.mp last)
    refine ⟨silent out.packet.token, unchanged, ?_⟩
    rw [isOutstanding, downlink?, held]
    rwa [Std.ExtTreeMap.contains_eq_isSome_getElem?] at outstanding

/-- The addresses of gateways may change hands, as long as the last one to use an address is its owner. -/
theorem acknowledgment_from_route_returned :
    let gateway := GatewayId.ofNumber 1
    let former := GatewayId.ofNumber 2
    let address : Address := ⟨"192.0.2.1:1700"⟩
    let command := DownlinkCommand.plain ⟨0x408B200000000000⟩ 14 (.fsk 50000) [1]
    let r := ((empty .standard).run [.handle (.pullData ⟨7⟩ gateway) address 0,
      .handle (.pullData ⟨8⟩ former) address 1, .handle (.pushData ⟨9⟩ gateway .empty) address 2]).1
    (r.send gateway command 3).answer = .ok ⟨address, .pullResp ⟨0⟩ command⟩ ∧
      (Step.mk (r.send gateway command 3).registry (.handle (.pullAck ⟨0⟩) address 4)).answer =
        .dispatched (.ok ⟨none, [.downlinkAcked gateway ⟨0⟩]⟩) := by
  intro gateway former address command r
  have sent : (r.send gateway command 3).answer = .ok ⟨address, .pullResp ⟨0⟩ command⟩ := by
    decide +kernel
  have confirmed := (acknowledgment_from_route .standard _ gateway command 3 _ sent
    (.handle (.pullAck ⟨0⟩) address 4) (.pullAck ⟨0⟩) 4 rfl rfl rfl).1 (by decide +kernel)
  exact ⟨sent, confirmed.1⟩

/-- Behind an address that two gateways use, the acknowledgment of a downlink for one counts as stale for
the other, which was heard last, and the downlink stays outstanding. -/
theorem acknowledgment_behind_shared_address :
    let gateway := GatewayId.ofNumber 1
    let neighbour := GatewayId.ofNumber 2
    let address : Address := ⟨"192.0.2.1:1700"⟩
    let command := DownlinkCommand.plain ⟨0x408B200000000000⟩ 14 (.fsk 50000) [1]
    let r := ((empty .standard).run [.handle (.pullData ⟨7⟩ gateway) address 0,
      .handle (.pullData ⟨8⟩ neighbour) address 1]).1
    let acked := (r.send gateway command 2).registry.handle (.pullAck ⟨0⟩) address 3
    (r.send gateway command 2).answer = .ok ⟨address, .pullResp ⟨0⟩ command⟩ ∧
      acked.answer = ⟨none, []⟩ ∧
      acked.registry.isOutstanding gateway ⟨0⟩ = true ∧
      (acked.registry.session? neighbour).map Session.staleAcks = some 1 := by
  decide +kernel

end Registry

end GatewayLink
