import Mathlib.Data.List.Basic
import GatewayLink.Proofs.Registry.View

/-! The share of one gateway in a registry: its session and the addresses known as its own.
`Share.react` tells what an action makes of a share and what it reports of the gateway. It looks at the
share alone, and still it is exact: a registry treats each gateway by itself, whatever the others do. -/

namespace GatewayLink

def Packet.requester? (p : Packet) : Option GatewayId :=
  if p.kind.namesGateway then p.gateway else none

def Action.heard? : Action → Option (Packet × Address × Instant)
  | .receive datagram source now =>
    match Packet.decode datagram with
    | .ok p => some (p, source, now)
    | .error _ => none
  | .handle p source now => some (p, source, now)
  | _ => none

def Action.request? (action : Action) : Option (GatewayId × Address) :=
  action.heard?.bind fun (p, source, _) => p.requester?.map fun gateway => (gateway, source)

theorem Action.request?_of_heard {action : Action} {p : Packet} {source : Address} {now : Instant}
    (brought : action.heard? = some (p, source, now)) :
    action.request? = p.requester?.map fun gateway => (gateway, source) := by
  simp [request?, brought]

theorem Action.request?_of_names {action : Action} {p : Packet} {source : Address} {now : Instant}
    {gateway : GatewayId} (brought : action.heard? = some (p, source, now))
    (names : p.kind.namesGateway = true) (own : p.gateway = some gateway) :
    action.request? = some (gateway, source) := by
  rw [request?_of_heard brought, Packet.requester?, names, if_pos rfl, own, Option.map_some]

theorem Action.request?_of_ack {action : Action} {p : Packet} {source : Address} {now : Instant}
    (brought : action.heard? = some (p, source, now))
    (kind : p.kind = .pushAck ∨ p.kind = .pullAck) : action.request? = none := by
  rw [request?_of_heard brought, Packet.requester?]
  rcases kind with kind | kind <;> simp [kind, PacketKind.namesGateway]

def Answer.events : Answer → List Event
  | .dispatched (.ok dispatch) => dispatch.events
  | .swept sweep => sweep.events
  | .shutDown events => events
  | _ => []

structure Share where
  session : Option Session
  owns : Address → Bool

/-- What an action makes of a share, and what it tells of its gateway. -/
structure Reaction where
  share : Share
  events : List Event
  resent : List Outbound

def Registry.share (r : Registry) (gateway : GatewayId) : Share :=
  ⟨r.session? gateway, fun address => r.peers[address]? = some gateway⟩

namespace Share

def closed : Share := ⟨none, fun _ => false⟩

def quiet (sh : Share) : Reaction := ⟨sh, [], []⟩

def sessionAt (now : Instant) (sh : Share) : Session := sh.session.getD (.start now)

def claim (source : Address) (mine : Bool) (sh : Share) : Share :=
  { sh with owns := fun address => if source = address then mine else sh.owns address }

def withSession (s : Session) (sh : Share) : Share := { sh with session := some s }

@[simp] theorem owns_claim (source address : Address) (mine : Bool) (sh : Share) :
    (sh.claim source mine).owns address = if source = address then mine else sh.owns address := rfl

@[simp] theorem owns_withSession (s : Session) (sh : Share) : (sh.withSession s).owns = sh.owns := rfl

@[simp] theorem session_claim (source : Address) (mine : Bool) (sh : Share) :
    (sh.claim source mine).session = sh.session := rfl

@[simp] theorem session_withSession (s : Session) (sh : Share) :
    (sh.withSession s).session = some s := rfl

@[simp] theorem sessionAt_withSession (s : Session) (now : Instant) (sh : Share) :
    (sh.withSession s).sessionAt now = s := rfl

def acknowledge (gateway : GatewayId) (token : Token) (source : Address) (now : Instant)
    (sh : Share) : Reaction :=
  match sh.owns source, sh.session with
  | true, some s =>
    ⟨sh.withSession (s.acknowledged token now),
      if s.pending.contains token then [.downlinkAcked gateway token] else [], []⟩
  | _, _ => sh.quiet

def hear (gateway : GatewayId) (p : Packet) (source : Address) (now : Instant) (sh : Share) :
    Reaction :=
  match p.kind, p.gateway with
  | .pushData, some sender =>
    if sender = gateway then
      ⟨(sh.withSession ((sh.sessionAt now).touch now)).claim source true,
        Registry.bodyEvents gateway p.body, []⟩
    else (sh.claim source false).quiet
  | .pullData, some sender =>
    if sender = gateway then
      ((sh.withSession { ((sh.sessionAt now).touch now).keepAlive now with
        route := some source }).claim source true).quiet
    else (sh.claim source false).quiet
  | .pushAck, _ => sh.acknowledge gateway p.token source now
  | .pullAck, _ => sh.acknowledge gateway p.token source now
  | _, _ => sh.quiet

def sweep (policy : Policy) (gateway : GatewayId) (now : Instant) (sh : Share) : Reaction :=
  match sh.session with
  | none => sh.quiet
  | some s =>
    ⟨if s.isIdle policy now then closed else sh.withSession (s.expire policy now),
      Registry.sweepEvents policy now gateway s, Registry.sweepRetransmissions policy now s⟩

def react (policy : Policy) (gateway : GatewayId) (action : Action) (sh : Share) : Reaction :=
  match action with
  | .receive _ _ _ | .handle _ _ _ =>
    match action.heard? with
    | some (p, source, now) => sh.hear gateway p source now
    | none => sh.quiet
  | .send target command now =>
    if target = gateway then
      quiet { sh with session := sh.session.map (·.submitted policy command now) }
    else sh.quiet
  | .cancel target token =>
    if target = gateway then quiet { sh with session := sh.session.map (·.release token) }
    else sh.quiet
  | .sweep now => sh.sweep policy gateway now
  | .shutdown => ⟨closed, (sh.session.map (Registry.closingEvents gateway)).getD [], []⟩

/-- Everything an action can make of a share. -/
inductive Change (policy : Policy) (gateway : GatewayId) (action : Action) (sh : Share) :
    Share → Prop where
  | pushed (p : Packet) (source : Address) (now : Instant)
      (brought : action.heard? = some (p, source, now)) (kind : p.kind = .pushData)
      (own : p.gateway = some gateway) :
    Change policy gateway action sh
      ((sh.withSession ((sh.sessionAt now).touch now)).claim source true)
  | pulled (p : Packet) (source : Address) (now : Instant)
      (brought : action.heard? = some (p, source, now)) (kind : p.kind = .pullData)
      (own : p.gateway = some gateway) :
    Change policy gateway action sh
      ((sh.withSession { ((sh.sessionAt now).touch now).keepAlive now with
        route := some source }).claim source true)
  | yielded (other : GatewayId) (source : Address)
      (request : action.request? = some (other, source)) (foreign : other ≠ gateway) :
    Change policy gateway action sh (sh.claim source false)
  | acknowledged (p : Packet) (source : Address) (now : Instant) (s : Session)
      (brought : action.heard? = some (p, source, now))
      (kind : p.kind = .pushAck ∨ p.kind = .pullAck) (owned : sh.owns source = true)
      (found : sh.session = some s) :
    Change policy gateway action sh (sh.withSession (s.acknowledged p.token now))
  | submitted (s : Session) (command : DownlinkCommand) (now : Instant)
      (submits : action = .send gateway command now) (found : sh.session = some s) :
    Change policy gateway action sh (sh.withSession (s.submitted policy command now))
  | released (s : Session) (token : Token) (cancels : action = .cancel gateway token)
      (found : sh.session = some s) :
    Change policy gateway action sh (sh.withSession (s.release token))
  | expired (s : Session) (now : Instant) (sweeps : action = .sweep now)
      (found : sh.session = some s) (awake : s.isIdle policy now = false) :
    Change policy gateway action sh (sh.withSession (s.expire policy now))
  | closed (ends : action = .shutdown ∨
      ∃ now s, action = .sweep now ∧ sh.session = some s ∧ s.isIdle policy now = true) :
    Change policy gateway action sh closed
  | kept (unrequested : action.request? = none) : Change policy gateway action sh sh

@[ext] theorem ext_parts {a b : Share} (session : a.session = b.session)
    (owns : ∀ address, a.owns address = b.owns address) : a = b := by
  cases a; cases b
  simp_all [funext_iff]

section

variable {policy : Policy} {gateway : GatewayId} {action : Action} {sh : Share}

theorem change_hear {p : Packet} {source : Address} {now : Instant}
    (brought : action.heard? = some (p, source, now)) :
    Change policy gateway action sh (sh.hear gateway p source now).share := by
  have requested := Action.request?_of_heard brought
  have answered (kind : p.kind = .pushAck ∨ p.kind = .pullAck) :
      Change policy gateway action sh (sh.acknowledge gateway p.token source now).share := by
    unfold acknowledge
    split
    · next s owned found => exact .acknowledged p source now s brought kind owned found
    · exact .kept (Action.request?_of_ack brought kind)
  obtain ⟨version, token, kind, sender, body⟩ := p
  cases kind with
  | pushData =>
    cases sender with
    | none => exact .kept requested
    | some sender =>
      simp only [hear]
      split
      · next own => exact .pushed _ source now brought rfl (congrArg some own)
      · next other => exact .yielded sender source requested other
  | pullData =>
    cases sender with
    | none => exact .kept requested
    | some sender =>
      simp only [hear]
      split
      · next own => exact .pulled _ source now brought rfl (congrArg some own)
      · next other => exact .yielded sender source requested other
  | pushAck => exact answered (.inl rfl)
  | pullAck => exact answered (.inr rfl)
  | pullResp => exact .kept requested

/-- The inversion that every invariant of shares rests on. -/
theorem change_react :
    Change policy gateway action sh (sh.react policy gateway action).share := by
  cases action with
  | receive datagram source now =>
    simp only [react]
    split
    · next brought => exact change_hear brought
    · next unheard => exact .kept (by rw [Action.request?, unheard, Option.bind_none])
  | handle p source now => exact change_hear rfl
  | send target command now =>
    simp only [react]
    split
    · next own =>
      subst own
      obtain ⟨session, owns⟩ := sh
      cases session with
      | none => exact .kept rfl
      | some s => exact .submitted s command now rfl rfl
    · exact .kept rfl
  | cancel target token =>
    simp only [react]
    split
    · next own =>
      subst own
      obtain ⟨session, owns⟩ := sh
      cases session with
      | none => exact .kept rfl
      | some s => exact .released s token rfl rfl
    · exact .kept rfl
  | sweep now =>
    simp only [react, sweep]
    split
    · exact .kept rfl
    · next s found =>
      dsimp only
      split
      · next idle => exact .closed (.inr ⟨now, s, rfl, found, idle⟩)
      · next awake => exact .expired s now rfl found (Bool.not_eq_true _ ▸ awake)
  | shutdown => exact .closed (.inl rfl)

end

end Share

namespace Registry

variable (r : Registry) (gateway : GatewayId)

theorem perform_of_heard {r : Registry} {action : Action} {p : Packet} {source : Address}
    {now : Instant} (brought : action.heard? = some (p, source, now)) :
    (r.perform action).answer = .dispatched (.ok (r.handle p source now).answer) ∧
      (r.perform action).registry = (r.handle p source now).registry := by
  cases action with
  | receive datagram source instant =>
    simp only [Action.heard?] at brought
    split at brought
    · next decoded =>
      cases brought
      simp [perform, Outcome.map, receive, decoded]
    · cases brought
  | handle q source instant =>
    cases brought
    exact ⟨rfl, rfl⟩
  | _ => cases brought

theorem filter_bodyEvents_other {sender : GatewayId} (body : Option Body)
    (other : sender ≠ gateway) :
    (bodyEvents sender body).filter (fun e => e.gateway = gateway) = [] := by
  rw [List.filter_eq_nil_iff]
  intro event member
  simpa [gateway_bodyEvents member] using other

theorem filter_bodyEvents_own (body : Option Body) :
    (bodyEvents gateway body).filter (fun e => e.gateway = gateway) =
      bodyEvents gateway body := by
  rw [List.filter_eq_self]
  intro event member
  simpa using gateway_bodyEvents member

theorem share_push (sender : GatewayId) (token : Token) (body : Option Body) (source : Address)
    (now : Instant) :
    (r.push sender token body source now).registry.share gateway =
      if sender = gateway then
        ((r.share gateway).withSession (((r.share gateway).sessionAt now).touch now)).claim
          source true
      else (r.share gateway).claim source false := by
  by_cases same : sender = gateway
  · subst same
    apply Share.ext_parts
    · simp [share, session?_push, Share.claim, Share.withSession, Share.sessionAt, sessionAt]
    · intro address
      by_cases here : source = address <;>
        simp [share, peers_push, Share.claim, Share.withSession, here]
  · apply Share.ext_parts
    · simp [share, session?_push, Share.claim, same]
    · intro address
      by_cases here : source = address <;> simp [share, peers_push, Share.claim, here, same]

theorem share_pull (sender : GatewayId) (token : Token) (source : Address) (now : Instant) :
    (r.pull sender token source now).registry.share gateway =
      if sender = gateway then
        ((r.share gateway).withSession
          { (((r.share gateway).sessionAt now).touch now).keepAlive now with
            route := some source }).claim source true
      else (r.share gateway).claim source false := by
  by_cases same : sender = gateway
  · subst same
    apply Share.ext_parts
    · simp [share, session?_pull, Share.claim, Share.withSession, Share.sessionAt, sessionAt]
    · intro address
      by_cases here : source = address <;>
        simp [share, peers_pull, Share.claim, Share.withSession, here]
  · apply Share.ext_parts
    · simp [share, session?_pull, Share.claim, same]
    · intro address
      by_cases here : source = address <;> simp [share, peers_pull, Share.claim, here, same]

theorem share_acknowledge (kind : PacketKind) (token : Token) (source : Address) (now : Instant) :
    (r.acknowledge kind token source now).registry.share gateway =
      ((r.share gateway).acknowledge gateway token source now).share := by
  apply Share.ext_parts
  · by_cases mine : r.peers[source]? = some gateway <;>
      cases found : r.session? gateway <;>
      simp [share, session?_acknowledge, Share.acknowledge, mine, found, Share.withSession,
        Share.quiet]
  · intro address
    by_cases mine : r.peers[source]? = some gateway <;>
      cases found : r.session? gateway <;>
      simp [share, Share.acknowledge, mine, found, Share.withSession, Share.quiet]

theorem events_acknowledge (kind : PacketKind) (token : Token) (source : Address)
    (now : Instant) :
    ((r.acknowledge kind token source now).answer.events.filter fun e => e.gateway = gateway) =
      ((r.share gateway).acknowledge gateway token source now).events := by
  rw [answer_acknowledge]
  cases known : r.peer? source with
  | none =>
    by_cases mine : r.peers[source]? = some gateway
    · have gone : r.session? gateway = none := by
        cases found : r.session? gateway with
        | none => rfl
        | some s => rw [peer?_eq_some.mpr ⟨mine, found⟩] at known; cases known
      simp [share, Share.acknowledge, Share.quiet, gone]
    · simp [share, Share.acknowledge, Share.quiet, mine]
  | some entry =>
    obtain ⟨owner, s⟩ := entry
    obtain ⟨owned, found⟩ := peer?_eq_some.mp known
    by_cases same : owner = gateway
    · subst same
      simp only [share, Share.acknowledge, owned, found, decide_true]
      split <;> simp [Event.gateway]
    · simp only [share, Share.acknowledge, owned, Option.some.injEq, same, decide_false,
        Share.quiet]
      split <;> simp [Event.gateway, same]

theorem share_handle (p : Packet) (source : Address) (now : Instant) :
    (r.handle p source now).registry.share gateway =
      ((r.share gateway).hear gateway p source now).share := by
  obtain ⟨_, token, kind, sender, body⟩ := p
  cases kind with
  | pushData =>
    cases sender with
    | none => rfl
    | some sender =>
      refine (share_push r gateway sender token body source now).trans ?_
      simp only [Share.hear]
      split <;> rfl
  | pullData =>
    cases sender with
    | none => rfl
    | some sender =>
      refine (share_pull r gateway sender token source now).trans ?_
      simp only [Share.hear]
      split <;> rfl
  | pushAck => exact share_acknowledge r gateway .pushAck token source now
  | pullAck => exact share_acknowledge r gateway .pullAck token source now
  | pullResp => rfl

theorem events_handle (p : Packet) (source : Address) (now : Instant) :
    ((r.handle p source now).answer.events.filter fun e => e.gateway = gateway) =
      ((r.share gateway).hear gateway p source now).events := by
  obtain ⟨_, token, kind, sender, body⟩ := p
  cases kind with
  | pushData =>
    cases sender with
    | none => rfl
    | some sender =>
      simp only [handle, push, Share.hear]
      split
      · next same =>
        subst same
        exact filter_bodyEvents_own sender body
      · next other => exact filter_bodyEvents_other gateway body other
  | pullData =>
    cases sender with
    | none => rfl
    | some sender =>
      simp only [handle, pull, Share.hear, List.filter_nil]
      split <;> rfl
  | pushAck => exact events_acknowledge r gateway .pushAck token source now
  | pullAck => exact events_acknowledge r gateway .pullAck token source now
  | pullResp => rfl

theorem share_sweep (now : Instant) :
    (r.sweep now).registry.share gateway =
      ((r.share gateway).sweep r.policy gateway now).share := by
  cases found : r.session? gateway with
  | none =>
    apply Share.ext_parts
    · simp [share, session?_sweep, Share.sweep, found, Share.quiet]
    · intro address
      simp only [share, peers_sweep, Share.sweep, found, Share.quiet, Option.filter_eq_some_iff,
        decide_eq_decide]
      simp [evicts, found]
  | some s =>
    apply Share.ext_parts
    · simp only [share, session?_sweep, Share.sweep, found, Option.bind_some]
      split <;> rfl
    · intro address
      simp only [share, peers_sweep, Share.sweep, found, Option.filter_eq_some_iff]
      cases idle : s.isIdle r.policy now <;>
        simp [evicts, found, idle, Share.closed, Share.withSession]

theorem share_empty (policy : Policy) : (empty policy).share gateway = Share.closed := by
  apply Share.ext_parts
  · exact session?_empty gateway policy
  · intro address
    simp [share, empty, Share.closed]

theorem share_shutdown : r.shutdown.registry.share gateway = Share.closed :=
  share_empty gateway r.policy

/-- An action makes of each share what it would make of it alone. -/
theorem share_perform (action : Action) :
    (r.perform action).registry.share gateway =
      ((r.share gateway).react r.policy gateway action).share := by
  cases action with
  | receive datagram source now =>
    simp only [perform, Outcome.map, receive, Share.react, Action.heard?]
    cases Packet.decode datagram with
    | error fault => rfl
    | ok p => exact share_handle r gateway p source now
  | handle p source now => exact share_handle r gateway p source now
  | send target command now =>
    apply Share.ext_parts
    · simp only [perform, Outcome.map, share, session?_send, Share.react]
      split <;> rfl
    · intro address
      simp only [perform, Outcome.map, share, peers_send, Share.react]
      split <;> rfl
  | cancel target token =>
    apply Share.ext_parts
    · simp only [perform, Outcome.map, share, session?_cancel, Share.react]
      split <;> rfl
    · intro address
      simp only [perform, Outcome.map, share, peers_cancel, Share.react]
      split <;> rfl
  | sweep now => exact share_sweep r gateway now
  | shutdown => exact share_shutdown r gateway

theorem change_perform (action : Action) :
    Share.Change r.policy gateway action (r.share gateway)
      ((r.perform action).registry.share gateway) := by
  rw [share_perform]
  exact Share.change_react

theorem events_perform (action : Action) :
    ((r.perform action).answer.events.filter fun e => e.gateway = gateway) =
      ((r.share gateway).react r.policy gateway action).events := by
  cases action with
  | receive datagram source now =>
    simp only [perform, Outcome.map, receive, Share.react, Action.heard?]
    cases Packet.decode datagram with
    | error fault => rfl
    | ok p => exact events_handle r gateway p source now
  | handle p source now => exact events_handle r gateway p source now
  | send target command now =>
    simp only [perform, Outcome.map, Answer.events, Share.react]
    split <;> rfl
  | cancel target token =>
    simp only [perform, Outcome.map, Answer.events, Share.react]
    split <;> rfl
  | sweep now =>
    refine (filter_flatMap_sessions r gateway (sweepEvents r.policy now)
      fun g s event => gateway_sweepEvents).trans ?_
    simp only [Share.react, Share.sweep, share]
    cases r.session? gateway <;> rfl
  | shutdown =>
    exact filter_flatMap_sessions r gateway closingEvents fun g s event => gateway_closingEvents

end Registry

end GatewayLink
