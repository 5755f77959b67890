import GatewayLink.Proofs.Registry.Share

/-! Isolation of gateways.
A gateway whose addresses no other gateway sends requests from sees a run as if the traffic of the others
were not in it. What ties an address to a gateway is always a request, so routes and known addresses can be
traced back to the requests of the run; with that, an action that does not concern a gateway leaves its
share as it was, and one that does answers it the same in both runs. -/

namespace GatewayLink

namespace Action

def requests (actions : List Action) : List (GatewayId × Address) := actions.filterMap request?

/-- An action concerns a gateway unless it brings a request of another one, an acknowledgment from an
address without a request of its own, or is a downlink call for another one. -/
def concerns (gateway : GatewayId) (requests : List (GatewayId × Address)) (action : Action) : Bool :=
  match action with
  | .receive _ _ _ | .handle _ _ _ =>
    match action.heard? with
    | some (p, source, _) =>
      match p.kind with
      | .pushData | .pullData => p.gateway.all (· = gateway)
      | .pushAck | .pullAck => (gateway, source) ∈ requests
      | .pullResp => true
    | none => true
  | .send target _ _ => target = gateway
  | .cancel target _ => target = gateway
  | .sweep _ => true
  | .shutdown => true

end Action

/-- No address has requests of a gateway and of another one. -/
def Apart (gateway : GatewayId) (requests : List (GatewayId × Address)) : Prop :=
  ∀ own ∈ requests, ∀ other ∈ requests, own.2 = other.2 → own.1 = gateway → other.1 = gateway

instance (gateway : GatewayId) (requests : List (GatewayId × Address)) :
    Decidable (Apart gateway requests) :=
  inferInstanceAs (Decidable (∀ own ∈ requests, ∀ other ∈ requests, _))

/-- What an answer tells one gateway: replies and results, its events, and what a sweep sends to its
addresses. -/
def Answer.about (gateway : GatewayId) (home : Address → Bool) : Answer → Answer
  | .dispatched (.ok dispatch) =>
    .dispatched (.ok ⟨dispatch.reply, dispatch.events.filter fun e => e.gateway = gateway⟩)
  | .swept sweep =>
    .swept ⟨sweep.retransmissions.filter fun out => home out.address,
      sweep.events.filter fun e => e.gateway = gateway⟩
  | .shutDown events => .shutDown (events.filter fun e => e.gateway = gateway)
  | answer => answer

namespace Share

/-- The addresses and the route of a share are among those known. -/
structure Sourced (known : Address → Prop) (sh : Share) : Prop where
  owns : ∀ address, sh.owns address = true → known address
  route : ∀ s address, sh.session = some s → s.route = some address → known address

variable {known : Address → Prop} {sh : Share} {gateway : GatewayId} {source : Address}

theorem sourced_closed : closed.Sourced known :=
  ⟨nofun, nofun⟩

theorem Sourced.sessionAt (sourced : sh.Sourced known) (now : Instant) (address : Address)
    (routed : (sh.sessionAt now).route = some address) : known address := by
  cases found : sh.session with
  | none =>
    rw [Share.sessionAt, found] at routed
    cases routed
  | some s =>
    rw [Share.sessionAt, found] at routed
    exact sourced.route s address found routed

theorem Sourced.withSession {s : Session} (sourced : sh.Sourced known)
    (routed : ∀ address, s.route = some address → known address) :
    (sh.withSession s).Sourced known where
  owns := sourced.owns
  route _ address found := by
    cases found
    exact routed address

theorem Sourced.claim (sourced : sh.Sourced known) {mine : Bool} (asked : mine = true → known source) :
    (sh.claim source mine).Sourced known where
  owns address owned := by
    rw [owns_claim] at owned
    split at owned
    · next same => exact same ▸ asked owned
    · exact sourced.owns address owned
  route := sourced.route

theorem Sourced.change {action : Action} {policy : Policy} {next : Share}
    (sourced : sh.Sourced known) (change : Change policy gateway action sh next)
    (request : ∀ source, action.request? = some (gateway, source) → known source) :
    next.Sourced known := by
  cases change with
  | pushed p source now brought kind own =>
    have asked := request source (Action.request?_of_names brought (by rw [kind]; rfl) own)
    refine (sourced.withSession fun address routed => ?_).claim fun _ => asked
    exact sourced.sessionAt now address routed
  | pulled p source now brought kind own =>
    have asked := request source (Action.request?_of_names brought (by rw [kind]; rfl) own)
    refine (sourced.withSession fun address routed => ?_).claim fun _ => asked
    cases routed
    exact asked
  | yielded other source _ _ => exact sourced.claim nofun
  | acknowledged p source now s _ _ _ found =>
    refine sourced.withSession fun address routed => sourced.route s address found ?_
    exact (Session.route_acknowledged p.token now s).symm.trans routed
  | submitted s command now _ found =>
    refine sourced.withSession fun address routed => sourced.route s address found ?_
    exact (Session.route_submitted policy command now s).symm.trans routed
  | released s token _ found =>
    exact sourced.withSession fun address routed => sourced.route s address found routed
  | expired s now _ found _ =>
    exact sourced.withSession fun address routed => sourced.route s address found routed
  | closed _ => exact sourced_closed
  | kept _ => exact sourced

theorem claim_unowned (unowned : sh.owns source = false) : sh.claim source false = sh := by
  apply Share.ext_parts
  · rfl
  · intro address
    simp only [claim]
    split
    · next same => rw [← same, unowned]
    · rfl

theorem acknowledge_unowned (unowned : sh.owns source = false) (token : Token) (now : Instant) :
    sh.acknowledge gateway token source now = sh.quiet := by
  simp [Share.acknowledge, unowned]

theorem hear_unconcerned {requests : List (GatewayId × Address)} {p : Packet} {now : Instant}
    (sourced : sh.Sourced fun address => (gateway, address) ∈ requests)
    (apart : Apart gateway requests)
    (asked : ∀ sender, p.requester? = some sender → (sender, source) ∈ requests)
    (foreign : (match p.kind with
      | .pushData | .pullData => p.gateway.all (· = gateway)
      | .pushAck | .pullAck => decide ((gateway, source) ∈ requests)
      | .pullResp => true) = false) : (sh.hear gateway p source now).share = sh := by
  have unowned (unknown : (gateway, source) ∉ requests) : sh.owns source = false :=
    Bool.eq_false_iff.mpr fun own => unknown (sourced.owns source own)
  have unclaimed (sender : GatewayId) (other : sender ≠ gateway)
      (requester : p.requester? = some sender) : sh.claim source false = sh := by
    refine claim_unowned (unowned fun own => other ?_)
    exact apart _ own _ (asked sender requester) rfl rfl
  obtain ⟨_, token, kind, sender, body⟩ := p
  cases kind with
  | pushData =>
    cases sender with
    | none => rfl
    | some sender =>
      have other : sender ≠ gateway := by simpa using foreign
      simp only [Share.hear, if_neg other]
      exact unclaimed sender other rfl
  | pullData =>
    cases sender with
    | none => rfl
    | some sender =>
      have other : sender ≠ gateway := by simpa using foreign
      simp only [Share.hear, if_neg other]
      exact unclaimed sender other rfl
  | pushAck =>
    have unknown : (gateway, source) ∉ requests := by simpa using foreign
    exact congrArg Reaction.share (acknowledge_unowned (unowned unknown) token now)
  | pullAck =>
    have unknown : (gateway, source) ∉ requests := by simpa using foreign
    exact congrArg Reaction.share (acknowledge_unowned (unowned unknown) token now)
  | pullResp => rfl

theorem react_unconcerned {requests : List (GatewayId × Address)} {action : Action}
    (sourced : sh.Sourced fun address => (gateway, address) ∈ requests)
    (apart : Apart gateway requests)
    (asked : ∀ request, action.request? = some request → request ∈ requests)
    (foreign : action.concerns gateway requests = false) (policy : Policy) :
    (sh.react policy gateway action).share = sh := by
  have brings {p : Packet} {source : Address} {now : Instant}
      (brought : action.heard? = some (p, source, now)) (sender : GatewayId)
      (requester : p.requester? = some sender) : (sender, source) ∈ requests :=
    asked (sender, source) (by simp [Action.request?, brought, requester])
  cases action with
  | receive datagram source now =>
    simp only [Share.react]
    split
    · next brought =>
      simp only [Action.concerns, brought] at foreign
      exact hear_unconcerned sourced apart (brings brought) foreign
    · rfl
  | handle p source now => exact hear_unconcerned sourced apart (brings rfl) foreign
  | send target command now =>
    have other : target ≠ gateway := by simpa [Action.concerns] using foreign
    simp [Share.react, other, quiet]
  | cancel target token =>
    have other : target ≠ gateway := by simpa [Action.concerns] using foreign
    simp [Share.react, other, quiet]
  | sweep now => cases foreign
  | shutdown => cases foreign

end Share

namespace Registry

def Sourced (requests : List (GatewayId × Address)) (r : Registry) : Prop :=
  ∀ gateway, (r.share gateway).Sourced fun address => (gateway, address) ∈ requests

variable {requests : List (GatewayId × Address)} {gateway : GatewayId}

theorem sourced_empty (policy : Policy) : (empty policy).Sourced requests := fun gateway => by
  rw [share_empty]
  exact Share.sourced_closed

theorem sourced_perform {r : Registry} {action : Action} (sourced : r.Sourced requests)
    (asked : ∀ request, action.request? = some request → request ∈ requests) :
    (r.perform action).registry.Sourced requests := fun gateway =>
  (sourced gateway).change (r.change_perform gateway action) fun _ brought => asked _ brought

theorem sourced_run {r : Registry} {actions : List Action} (sourced : r.Sourced requests)
    (asked : ∀ action ∈ actions, ∀ request, action.request? = some request → request ∈ requests) :
    (r.run actions).1.Sourced requests := by
  induction actions generalizing r with
  | nil => exact sourced
  | cons action rest ih =>
    rw [run_cons]
    apply ih
    · exact sourced_perform sourced (asked action List.mem_cons_self)
    · exact fun later member => asked later (List.mem_cons_of_mem action member)

theorem share_run_concerns {full part : Registry} {actions : List Action}
    (apart : Apart gateway requests) (sourced : full.Sourced requests)
    (asked : ∀ action ∈ actions, ∀ request, action.request? = some request → request ∈ requests)
    (policy : full.policy = part.policy) (same : full.share gateway = part.share gateway) :
    (full.run actions).1.share gateway =
      (part.run (actions.filter (·.concerns gateway requests))).1.share gateway := by
  -- one share in both runs carries the induction: what the shorter run leaves out does not change it
  induction actions generalizing full part with
  | nil => exact same
  | cons action rest ih =>
    have first := asked action List.mem_cons_self
    have later := fun next member => asked next (List.mem_cons_of_mem action member)
    have tracked := sourced_perform sourced first
    rw [run_cons]
    by_cases concerned : action.concerns gateway requests = true
    · rw [List.filter_cons_of_pos concerned, run_cons]
      refine ih tracked later ?_ ?_
      · rw [policy_perform, policy_perform, policy]
      · rw [share_perform, share_perform, policy, same]
    · rw [List.filter_cons_of_neg concerned]
      refine ih tracked later ?_ ?_
      · rw [policy_perform, policy]
      · rw [share_perform, ← same]
        exact Share.react_unconcerned (sourced gateway) apart first
          (Bool.eq_false_iff.mpr concerned) full.policy

theorem answer_send_congr {full part : Registry} {command : DownlinkCommand} {now : Instant}
    (same : full.session? gateway = part.session? gateway) :
    (full.send gateway command now).answer = (part.send gateway command now).answer := by
  simp only [send, same]
  cases part.session? gateway with
  | none => rfl
  | some s =>
    dsimp only
    cases s.route with
    | none => rfl
    | some route =>
      cases taken : s.allocate? with
      | none => simp
      | some entry =>
        obtain ⟨token, next⟩ := entry
        dsimp only
        cases (Packet.pullResp token command).check <;> rfl

theorem route_of_retransmission {policy : Policy} {now : Instant} {s : Session} {out : Outbound}
    (sent : out ∈ sweepRetransmissions policy now s) : s.route = some out.address := by
  unfold sweepRetransmissions at sent
  split at sent
  · cases sent
  · simp only [Session.retransmissions, Session.fates, List.mem_filterMap, List.mem_map] at sent
    obtain ⟨⟨_, fate⟩, ⟨⟨_, p⟩, -, same⟩, again⟩ := sent
    cases same
    simp only [Pending.fate] at again
    split at again
    · split at again
      · next address routed =>
        split at again
        · cases again
          exact routed
        · cases again
      · cases again
    · cases again

theorem retransmissions_home {r : Registry} (apart : Apart gateway requests)
    (sourced : r.Sourced requests) (now : Instant) :
    ((r.sweep now).answer.retransmissions.filter fun out => (gateway, out.address) ∈ requests) =
      ((r.share gateway).sweep r.policy gateway now).resent := by
  simp only [sweep]
  rw [List.filter_flatMap, flatMap_toList_only r.sessions gateway]
  · cases found : r.sessions[gateway]? with
    | none => simp [Share.sweep, share, session?, found, Share.quiet]
    | some s =>
      simp only [Share.sweep, share, session?, found, Option.map_some, Option.getD_some,
        List.filter_eq_self, decide_eq_true_eq]
      intro out sent
      exact (sourced gateway).route s out.address found (route_of_retransmission sent)
  · intro other s found different
    rw [List.filter_eq_nil_iff]
    intro out sent own
    have theirs := (sourced other).route s out.address found (route_of_retransmission sent)
    exact different (apart (gateway, out.address) (by simpa using own) _ theirs rfl rfl)

theorem about_perform {full part : Registry} {action : Action} (apart : Apart gateway requests)
    (fullSourced : full.Sourced requests) (partSourced : part.Sourced requests)
    (policy : full.policy = part.policy) (same : full.share gateway = part.share gateway)
    (concerned : action.concerns gateway requests = true) :
    (full.perform action).answer.about gateway (fun address => (gateway, address) ∈ requests) =
      (part.perform action).answer.about gateway fun address => (gateway, address) ∈ requests := by
  have events : ((full.perform action).answer.events.filter fun e => e.gateway = gateway) =
      (part.perform action).answer.events.filter fun e => e.gateway = gateway := by
    rw [events_perform, events_perform, policy, same]
  have session : full.session? gateway = part.session? gateway := congrArg Share.session same
  cases action with
  | receive datagram source now =>
    simp only [perform, Outcome.map, receive] at events ⊢
    cases decoded : Packet.decode datagram with
    | error fault => rfl
    | ok p =>
      rw [decoded] at events
      simp only [Answer.about, Answer.events] at events ⊢
      rw [events, reply_handle, reply_handle]
  | handle p source now =>
    simp only [perform, Outcome.map, Answer.about, Answer.events] at events ⊢
    rw [events, reply_handle, reply_handle]
  | send target command now =>
    have own : target = gateway := by simpa [Action.concerns] using concerned
    subst own
    simp only [perform, Outcome.map]
    rw [answer_send_congr session]
  | cancel target token =>
    have own : target = gateway := by simpa [Action.concerns] using concerned
    subst own
    simp only [perform, Outcome.map, answer_cancel]
    rw [session]
  | sweep now =>
    have again := (retransmissions_home apart fullSourced now).trans
      ((congrArg Reaction.resent (by rw [policy, same])).trans
        (retransmissions_home apart partSourced now).symm)
    simp only [perform, Outcome.map, Answer.about, Answer.events] at events ⊢
    rw [events, again]
  | shutdown =>
    simp only [perform, Outcome.map, Answer.about, Answer.events] at events ⊢
    rw [events]

/-- A run and the part of it that concerns a gateway whose addresses are its own agree, at every point,
on its session and its addresses, and every action of the part is answered alike. -/
theorem gateway_isolated (policy : Policy) (gateway : GatewayId) (actions : List Action)
    (apart : Apart gateway (Action.requests actions)) (front back : List Action)
    (split : actions = front ++ back) :
    let concerned := Action.concerns gateway (Action.requests actions)
    let home := fun address => decide ((gateway, address) ∈ Action.requests actions)
    let full := ((empty policy).run front).1
    let part := ((empty policy).run (front.filter concerned)).1
    full.session? gateway = part.session? gateway ∧
      (∀ address : Address, full.peers[address]? = some gateway ↔ part.peers[address]? = some gateway) ∧
      ∀ action ∈ back.head?, concerned action = true →
        (full.perform action).answer.about gateway home =
          (part.perform action).answer.about gateway home := by
  intro concerned home full part
  have asked : ∀ action ∈ front, ∀ request, action.request? = some request →
      request ∈ Action.requests actions := by
    intro action member request brought
    rw [split]
    exact List.mem_filterMap.mpr ⟨action, List.mem_append_left back member, brought⟩
  have same : full.share gateway = part.share gateway :=
    share_run_concerns apart (sourced_empty policy) asked rfl rfl
  have policies : full.policy = part.policy := by
    rw [policy_run, policy_run]
  refine ⟨congrArg Share.session same, fun address => ?_, fun action _ concerned => ?_⟩
  · have owned := congrFun (congrArg Share.owns same) address
    simpa [share] using owned
  · refine about_perform apart ?_ ?_ policies same concerned
    · exact sourced_run (sourced_empty policy) asked
    · refine sourced_run (sourced_empty policy) fun action member => asked action ?_
      exact List.mem_of_mem_filter member

/-- The keep-alives of a neighbour at another address can be taken out of a run. -/
theorem gateway_isolated_from_neighbour :
    let gateway := GatewayId.ofNumber 1
    let neighbour := GatewayId.ofNumber 2
    let own := Action.handle (.pullData ⟨7⟩ gateway) ⟨"192.0.2.1:1700"⟩ 0
    let foreign := Action.handle (.pullData ⟨8⟩ neighbour) ⟨"192.0.2.2:1700"⟩ 1
    Apart gateway (Action.requests [own, foreign, .sweep 2]) ∧
      ((empty .standard).run [own, foreign, .sweep 2]).1.session? gateway =
        ((empty .standard).run [own, .sweep 2]).1.session? gateway := by
  intro gateway neighbour own foreign
  have apart : Apart gateway (Action.requests [own, foreign, .sweep 2]) := by decide
  have concerned : [own, foreign, .sweep 2].filter
      (Action.concerns gateway (Action.requests [own, foreign, .sweep 2])) = [own, .sweep 2] := by
    have here : own.concerns gateway (Action.requests [own, foreign, .sweep 2]) = true := by decide
    have away : foreign.concerns gateway (Action.requests [own, foreign, .sweep 2]) = false := by
      decide
    rw [List.filter_cons_of_pos here, List.filter_cons_of_neg (Bool.eq_false_iff.mp away)]
    rfl
  have same := (gateway_isolated .standard gateway [own, foreign, .sweep 2] apart _ []
    (List.append_nil _).symm).1
  rw [concerned] at same
  exact ⟨apart, same⟩

end Registry

end GatewayLink
