import GatewayLink.Session.Run

/-! Looking up sessions and addresses after each operation of a registry.
A sweep works on all gateways at once; its look-ups and its answer come apart into those of single
gateways, since a gateway has one session and a session holds a token once. -/

namespace GatewayLink

section

variable {α β γ : Type} [Ord α] [Std.TransOrd α] [Std.LawfulEqOrd α]

theorem flatMap_toList_only (m : Std.ExtTreeMap α β) (a : α) (f : α × β → List γ)
    (others : ∀ b v, m[b]? = some v → b ≠ a → f (b, v) = []) :
    m.toList.flatMap f = (m[a]?.map fun v => f (a, v)).getD [] := by
  have distinct := m.distinct_keys_toList
  cases found : m[a]? with
  | none =>
    have absent : ∀ entry ∈ m.toList, f entry = [] := by
      rintro ⟨b, v⟩ member
      have there := Std.ExtTreeMap.mem_toList_iff_getElem?_eq_some.mp member
      refine others b v there fun same => ?_
      rw [same, found] at there
      cases there
    simpa [List.flatMap_eq_nil_iff] using absent
  | some v =>
    have member := Std.ExtTreeMap.mem_toList_iff_getElem?_eq_some.mpr found
    obtain ⟨front, back, split⟩ := List.append_of_mem member
    have entry (b : α) (w : β) (there : (b, w) ∈ front ++ back) : m[b]? = some w := by
      refine Std.ExtTreeMap.mem_toList_iff_getElem?_eq_some.mp ?_
      rw [split]
      rcases List.mem_append.mp there with before | after
      · exact List.mem_append_left _ before
      · exact List.mem_append_right _ (List.mem_cons_of_mem _ after)
    rw [split] at distinct ⊢
    simp only [List.pairwise_append, List.pairwise_cons] at distinct
    obtain ⟨-, ⟨after, -⟩, before⟩ := distinct
    have none_before : front.flatMap f = [] := by
      simp only [List.flatMap_eq_nil_iff]
      rintro ⟨b, w⟩ there
      have different := before _ there (a, v) (by simp)
      exact others b w (entry b w (List.mem_append_left _ there)) fun same =>
        different (by simp [same])
    have none_after : back.flatMap f = [] := by
      simp only [List.flatMap_eq_nil_iff]
      rintro ⟨b, w⟩ there
      have different := after _ there
      exact others b w (entry b w (List.mem_append_right _ there)) fun same =>
        different (by simp [same])
    simp [none_before, none_after]

end

namespace Session

def acknowledged (token : Token) (now : Instant) (s : Session) : Session :=
  if s.pending.contains token then (s.touch now).release token
  else { s.touch now with staleAcks := s.staleAcks + 1 }

def issue? (command : DownlinkCommand) (s : Session) : Option (Token × Address) :=
  match s.route, s.allocate? with
  | some route, some (token, _) =>
    match (Packet.pullResp token command).check with
    | .ok _ => some (token, route)
    | .error _ => none
  | _, _ => none

def submitted (policy : Policy) (command : DownlinkCommand) (now : Instant) (s : Session) :
    Session :=
  match s.route, s.allocate? with
  | some _, some (token, next) =>
    match (Packet.pullResp token command).check with
    | .ok _ => next.hold token ⟨Packet.pullResp token command, now + policy.ackTimeout.toNat, 0⟩
    | .error _ => next
  | _, _ => s

theorem route_acknowledged (token : Token) (now : Instant) (s : Session) :
    (s.acknowledged token now).route = s.route := by
  unfold acknowledged
  split <;> rfl

theorem route_submitted (policy : Policy) (command : DownlinkCommand) (now : Instant)
    (s : Session) : (s.submitted policy command now).route = s.route := by
  unfold submitted
  split
  · next token next _ taken =>
    have kept : next.route = s.route := by
      simp only [allocate?, Option.map_eq_some_iff, Prod.mk.injEq] at taken
      obtain ⟨number, -, -, rfl⟩ := taken
      rfl
    split <;> exact kept
  · rfl

theorem release_of_free {token : Token} {s : Session} (free : s.pending.contains token = false) :
    s.release token = s := by
  have same : s.pending.erase token = s.pending := by
    apply Std.ExtTreeMap.ext_getElem?
    intro other
    rw [Std.ExtTreeMap.getElem?_erase]
    split
    · next equal =>
      rw [← Std.LawfulEqOrd.eq_of_compare equal,
        Std.ExtTreeMap.getElem?_eq_none_of_contains_eq_false free]
    · rfl
  simp [release, same]

end Session

namespace Registry

variable (r : Registry) (gateway other : GatewayId) (token : Token) (source address : Address)
  (now : Instant)

@[simp] theorem session?_empty (policy : Policy) : (empty policy).session? gateway = none := by
  simp [empty, session?]

theorem isActive_eq : r.isActive gateway = (r.session? gateway).isSome :=
  Std.ExtTreeMap.contains_eq_isSome_getElem?

theorem session?_setSession (s : Session) :
    (r.setSession gateway s).session? other =
      if gateway = other then some s else r.session? other := by
  simp [session?, setSession, Std.ExtTreeMap.getElem?_insert]

theorem setSession_self {r : Registry} {gateway : GatewayId} {s : Session}
    (found : r.session? gateway = some s) : r.setSession gateway s = r := by
  have same : r.sessions.insert gateway s = r.sessions := by
    apply Std.ExtTreeMap.ext_getElem?
    intro other
    rw [Std.ExtTreeMap.getElem?_insert]
    split
    · next equal => rw [← Std.LawfulEqOrd.eq_of_compare equal]; exact found.symm
    · rfl
  simp [setSession, same]

theorem session?_push (body : Option Body) :
    (r.push gateway token body source now).registry.session? other =
      if gateway = other then some ((r.sessionAt gateway now).touch now) else r.session? other :=
  session?_setSession r gateway other _

theorem session?_pull :
    (r.pull gateway token source now).registry.session? other =
      if gateway = other then
        some { ((r.sessionAt gateway now).touch now).keepAlive now with route := some source }
      else r.session? other :=
  session?_setSession r gateway other _

theorem peers_push (body : Option Body) :
    (r.push gateway token body source now).registry.peers[address]? =
      if source = address then some gateway else r.peers[address]? := by
  simp [push, remember, setSession, Std.ExtTreeMap.getElem?_insert]

theorem peers_pull :
    (r.pull gateway token source now).registry.peers[address]? =
      if source = address then some gateway else r.peers[address]? := by
  simp [pull, remember, setSession, Std.ExtTreeMap.getElem?_insert]

theorem peer?_eq_some {r : Registry} {source : Address} {gateway : GatewayId} {s : Session} :
    r.peer? source = some (gateway, s) ↔
      r.peers[source]? = some gateway ∧ r.session? gateway = some s := by
  simp only [peer?, Option.bind_eq_some_iff, Option.map_eq_some_iff, Prod.mk.injEq]
  constructor
  · rintro ⟨g, known, s', found, rfl, rfl⟩
    exact ⟨known, found⟩
  · rintro ⟨known, found⟩
    exact ⟨gateway, known, s, found, rfl, rfl⟩

variable (kind : PacketKind)

theorem registry_acknowledge_stranger {r : Registry} {source : Address}
    (stranger : r.peer? source = none) :
    (r.acknowledge kind token source now).registry = r := by
  simp [acknowledge, stranger]

theorem registry_acknowledge_known {r : Registry} {source : Address} {gateway : GatewayId}
    {s : Session} (known : r.peer? source = some (gateway, s)) :
    (r.acknowledge kind token source now).registry =
      r.setSession gateway (s.acknowledged token now) := by
  simp only [acknowledge, known, Session.acknowledged, Std.ExtTreeMap.contains_eq_isSome_getElem?]
  cases found : s.pending[token]? <;> simp [Session.touch, found]

theorem session?_acknowledge :
    (r.acknowledge kind token source now).registry.session? other =
      if r.peers[source]? = some other then (r.session? other).map (·.acknowledged token now)
      else r.session? other := by
  cases known : r.peer? source with
  | none =>
    rw [registry_acknowledge_stranger token now kind known]
    split
    · next owned =>
      have gone : r.session? other = none := by
        cases found : r.session? other with
        | none => rfl
        | some s => rw [peer?_eq_some.mpr ⟨owned, found⟩] at known; cases known
      simp [gone]
    · rfl
  | some entry =>
    obtain ⟨g, s⟩ := entry
    obtain ⟨owned, found⟩ := peer?_eq_some.mp known
    rw [registry_acknowledge_known token now kind known, session?_setSession, owned]
    by_cases same : g = other
    · subst same
      simp [found]
    · simp [same]

@[simp] theorem peers_acknowledge :
    (r.acknowledge kind token source now).registry.peers = r.peers := by
  cases known : r.peer? source with
  | none => rw [registry_acknowledge_stranger token now kind known]
  | some entry => rw [registry_acknowledge_known token now kind known]; rfl

theorem answer_acknowledge :
    (r.acknowledge kind token source now).answer =
      ⟨none, match r.peer? source with
        | some (g, s) => if s.pending.contains token then [.downlinkAcked g token] else []
        | none => []⟩ := by
  cases known : r.peer? source with
  | none => simp [acknowledge, known, Dispatch.none]
  | some entry =>
    obtain ⟨g, s⟩ := entry
    simp only [acknowledge, known, Std.ExtTreeMap.contains_eq_isSome_getElem?]
    cases found : s.pending[token]? <;> simp [Session.touch, found, Dispatch.none]

variable (command : DownlinkCommand)

theorem send_unknown {r : Registry} {gateway : GatewayId}
    (unknown : r.session? gateway = none) :
    r.send gateway command now = ⟨.error (.unknownGateway gateway), r, []⟩ := by
  simp [send, unknown]

theorem answer_send_eq_ok {r : Registry} {gateway : GatewayId} {s : Session} {out : Outbound}
    (found : r.session? gateway = some s) :
    (r.send gateway command now).answer = .ok out ↔
      ∃ issued route, s.issue? command = some (issued, route) ∧
        out = ⟨route, .pullResp issued command⟩ := by
  simp only [send, found, Session.issue?]
  cases s.route with
  | none => simp
  | some route =>
    cases s.allocate? with
    | none => simp
    | some entry =>
      obtain ⟨issued, next⟩ := entry
      dsimp only
      cases (Packet.pullResp issued command).check with
      | error fault => simp
      | ok _ =>
        simp only [Except.ok.injEq, Option.some.injEq, Prod.mk.injEq]
        constructor
        · rintro rfl
          exact ⟨issued, route, ⟨rfl, rfl⟩, rfl⟩
        · rintro ⟨_, _, ⟨rfl, rfl⟩, rfl⟩
          rfl

theorem exists_of_send_eq_ok {r : Registry} {gateway : GatewayId} {out : Outbound}
    (sent : (r.send gateway command now).answer = .ok out) :
    ∃ s issued, r.session? gateway = some s ∧ s.issue? command = some (issued, out.address) ∧
      out.packet = .pullResp issued command := by
  cases found : r.session? gateway with
  | none =>
    rw [send_unknown now command found] at sent
    cases sent
  | some s =>
    obtain ⟨issued, route, chosen, rfl⟩ := (answer_send_eq_ok now command found).mp sent
    exact ⟨s, issued, rfl, chosen, rfl⟩

theorem registry_send_known {r : Registry} {gateway : GatewayId} {s : Session}
    (found : r.session? gateway = some s) :
    (r.send gateway command now).registry =
      r.setSession gateway (s.submitted r.policy command now) := by
  simp only [send, found, Session.submitted]
  cases s.route with
  | none => exact (setSession_self found).symm
  | some route =>
    cases s.allocate? with
    | none => exact (setSession_self found).symm
    | some entry =>
      obtain ⟨issued, next⟩ := entry
      dsimp only
      cases (Packet.pullResp issued command).check <;> rfl

theorem session?_replaced {r next : Registry} {gateway other : GatewayId} {f : Session → Session}
    (unknown : r.session? gateway = none → next = r)
    (known : ∀ s, r.session? gateway = some s → next = r.setSession gateway (f s)) :
    next.session? other =
      if gateway = other then (r.session? other).map f else r.session? other := by
  cases found : r.session? gateway with
  | none =>
    rw [unknown found]
    split
    · next same => simp [← same, found]
    · rfl
  | some s =>
    rw [known s found, session?_setSession]
    split
    · next same => simp [← same, found]
    · rfl

theorem session?_send :
    (r.send gateway command now).registry.session? other =
      if gateway = other then (r.session? other).map (·.submitted r.policy command now)
      else r.session? other :=
  session?_replaced (fun unknown => by rw [send_unknown now command unknown])
    fun _ found => registry_send_known now command found

@[simp] theorem peers_send : (r.send gateway command now).registry.peers = r.peers := by
  cases found : r.session? gateway with
  | none => rw [send_unknown now command found]
  | some s => rw [registry_send_known now command found]; rfl

theorem answer_cancel :
    (r.cancel gateway token).answer =
      match r.session? gateway with
      | some s =>
        if s.pending.contains token then .ok () else .error (.notOutstanding gateway token)
      | none => .error (.unknownGateway gateway) := by
  cases found : r.session? gateway with
  | none => simp [cancel, found]
  | some s =>
    simp only [cancel, found]
    split <;> rfl

theorem registry_cancel_known {r : Registry} {gateway : GatewayId} {s : Session}
    (found : r.session? gateway = some s) :
    (r.cancel gateway token).registry = r.setSession gateway (s.release token) := by
  simp only [cancel, found]
  split
  · rfl
  · next free => rw [Session.release_of_free (Bool.not_eq_true _ ▸ free), setSession_self found]

theorem session?_cancel :
    (r.cancel gateway token).registry.session? other =
      if gateway = other then (r.session? other).map (·.release token) else r.session? other :=
  session?_replaced (fun unknown => by simp [cancel, unknown])
    fun _ found => registry_cancel_known token found

@[simp] theorem peers_cancel : (r.cancel gateway token).registry.peers = r.peers := by
  cases found : r.session? gateway with
  | none => simp [cancel, found]
  | some s => rw [registry_cancel_known token found]; rfl

theorem session?_sweep :
    (r.sweep now).registry.session? gateway = (r.session? gateway).bind fun s =>
      if s.isIdle r.policy now then none else some (s.expire r.policy now) := by
  simp only [session?, sweep]
  rw [Std.ExtTreeMap.getElem?_filterMap']

theorem peers_sweep :
    (r.sweep now).registry.peers[address]? =
      r.peers[address]?.filter fun owner => !r.evicts now owner := by
  simp only [sweep]
  rw [Std.ExtTreeMap.getElem?_filter']

theorem filter_flatMap_sessions (f : GatewayId → Session → List Event)
    (own : ∀ g s, ∀ event ∈ f g s, event.gateway = g) :
    ((r.sessions.toList.flatMap fun (g, s) => f g s).filter fun e => e.gateway = gateway) =
      ((r.session? gateway).map (f gateway)).getD [] := by
  rw [List.filter_flatMap, flatMap_toList_only r.sessions gateway]
  · cases found : r.sessions[gateway]? with
    | none => simp [session?, found]
    | some s =>
      simp only [session?, found, Option.map_some, Option.getD_some, List.filter_eq_self]
      intro event member
      simpa using own gateway s event member
  · intro g s _ different
    rw [List.filter_eq_nil_iff]
    intro event member
    simpa [own g s event member] using different

theorem gateway_closingEvents {g : GatewayId} {s : Session} {event : Event}
    (member : event ∈ closingEvents g s) : event.gateway = g := by
  simp only [closingEvents, List.mem_append, List.mem_map, List.mem_singleton] at member
  rcases member with ⟨token, -, rfl⟩ | rfl <;> rfl

theorem gateway_sweepEvents {policy : Policy} {now : Instant} {g : GatewayId} {s : Session}
    {event : Event} (member : event ∈ sweepEvents policy now g s) : event.gateway = g := by
  unfold sweepEvents at member
  split at member
  · exact gateway_closingEvents member
  · obtain ⟨token, -, rfl⟩ := List.mem_map.mp member
    rfl

theorem gateway_bodyEvents {g : GatewayId} {body : Option Body} {event : Event}
    (member : event ∈ bodyEvents g body) : event.gateway = g := by
  cases body with
  | none => simp [bodyEvents] at member
  | some body =>
    simp only [bodyEvents, List.mem_append, List.mem_map] at member
    rcases member with ⟨frame, -, rfl⟩ | ⟨status, -, rfl⟩ <;> rfl

/-- The reply to a packet is fixed by its kind: a registry answers requests, whoever they come from. -/
theorem reply_handle (p : Packet) :
    (r.handle p source now).answer.reply =
      match p.kind, p.gateway with
      | .pushData, some _ => some ⟨source, .pushAck p.token⟩
      | .pullData, some _ => some ⟨source, .pullAck p.token⟩
      | _, _ => none := by
  obtain ⟨_, token, kind, sender, body⟩ := p
  cases kind with
  | pushData => cases sender <;> rfl
  | pullData => cases sender <;> rfl
  | pushAck => exact congrArg Dispatch.reply (answer_acknowledge r token source now .pushAck)
  | pullAck => exact congrArg Dispatch.reply (answer_acknowledge r token source now .pullAck)
  | pullResp => rfl

theorem policy_handle (p : Packet) : (r.handle p source now).registry.policy = r.policy := by
  unfold handle
  split <;> try rfl
  all_goals
    unfold acknowledge
    split
    · rfl
    · dsimp only
      split <;> rfl

theorem policy_perform (action : Action) : (r.perform action).registry.policy = r.policy := by
  cases action with
  | receive datagram source now =>
    simp only [perform, Outcome.map, receive]
    split
    · rfl
    · exact policy_handle r source now _
  | handle packet source now => exact policy_handle r source now packet
  | send gateway command now =>
    simp only [perform, Outcome.map]
    cases found : r.session? gateway with
    | none => rw [send_unknown now command found]
    | some s => rw [registry_send_known now command found]; rfl
  | cancel gateway token =>
    simp only [perform, Outcome.map]
    cases found : r.session? gateway with
    | none => simp [cancel, found]
    | some s => rw [registry_cancel_known token found]; rfl
  | sweep now => rfl
  | shutdown => rfl

theorem policy_run (r : Registry) (actions : List Action) :
    (r.run actions).1.policy = r.policy := by
  induction actions generalizing r with
  | nil => rfl
  | cons action rest ih => rw [run_cons, ih, policy_perform]

end Registry

end GatewayLink
