import GatewayLink.Proofs.Registry.Isolation
import GatewayLink.Proofs.Registry.Summary
import GatewayLink.Proofs.Registry.Transmission

/-! The life of a session.
It is opened by a request and closed by an eviction or a shutdown, which reports the gateway gone after all
that was outstanding has failed. From then on nothing is told of the gateway, counted for it or sent to it
until it sends the next request. A shutdown leaves a registry as new. -/

namespace GatewayLink

/-- What a step sends to a gateway: the reply to its request, a downlink that was submitted for it, and what
a sweep sends again for it. -/
def Step.sends (gateway : GatewayId) (s : Step) : List Outbound :=
  match s.action with
  | .send target _ _ => if target = gateway then s.answer.outbounds else []
  | .sweep now => ((s.before.share gateway).sweep s.before.policy gateway now).resent
  | action => if action.isRequestOf gateway then s.answer.outbounds else []

/-- The step says nothing of a gateway, counts nothing for it and sends nothing to it. -/
structure Step.Silent (gateway : GatewayId) (s : Step) : Prop where
  events : ∀ event ∈ s.events, event.gateway ≠ gateway
  contact : s.contact? gateway = none
  sends : s.sends gateway = []

/-- A gateway is reported gone once, after nothing but failures of its downlinks and before nothing of it. -/
def Disconnects (gateway : GatewayId) (events : List Event) : Prop :=
  ∃ front back, events = front ++ .gatewayDisconnected gateway :: back ∧
    (∀ event ∈ front, event.gateway = gateway → ∃ token, event = .downlinkFailed gateway token) ∧
    ∀ event ∈ back, event.gateway ≠ gateway

namespace Share

variable {policy : Policy} {gateway : GatewayId} {action : Action} {sh next : Share}

theorem Change.eq_closed (change : Change policy gateway action sh next)
    (lost : sh.loses next = true) : next = Share.closed := by
  cases change with
  | closed _ => rfl
  | yielded _ _ _ _ => cases found : sh.session <;> simp [loses, found] at lost
  | kept _ => cases found : sh.session <;> simp [loses, found] at lost
  | _ => simp [loses] at lost

theorem events_of_loses (lost : sh.loses (sh.react policy gateway action).share = true) :
    ∃ s, sh.session = some s ∧
      (sh.react policy gateway action).events = Registry.closingEvents gateway s := by
  have active : sh.session.isSome = true := ((Bool.and_eq_true _ _).mp lost).1
  rcases change_react.ends_of_loses lost with rfl | ⟨now, s, rfl, found, idle⟩
  · obtain ⟨s, found⟩ := Option.isSome_iff_exists.mp active
    refine ⟨s, found, ?_⟩
    rw [react, found]
    rfl
  · refine ⟨s, found, ?_⟩
    simp [react, sweep, found, Registry.sweepEvents, idle]

theorem loses_of_disconnected
    (gone : .gatewayDisconnected gateway ∈ (sh.react policy gateway action).events) :
    sh.loses (sh.react policy gateway action).share = true := by
  have acknowledged (token : Token) (source : Address) (now : Instant) :
      .gatewayDisconnected gateway ∉ (sh.acknowledge gateway token source now).events := by
    unfold acknowledge
    split
    · split <;> simp
    · exact List.not_mem_nil
  have heard (p : Packet) (source : Address) (now : Instant) :
      .gatewayDisconnected gateway ∉ (sh.hear gateway p source now).events := by
    unfold hear
    split
    · split
      · cases p.body <;> simp [Registry.bodyEvents]
      · exact List.not_mem_nil
    · split <;> exact List.not_mem_nil
    · exact acknowledged p.token source now
    · exact acknowledged p.token source now
    · exact List.not_mem_nil
  cases action with
  | receive datagram source now =>
    simp only [react] at gone
    split at gone
    · next p source now _ => exact absurd gone (heard p source now)
    · cases gone
  | handle p source now => exact absurd gone (heard p source now)
  | send target command now =>
    simp only [react] at gone
    split at gone <;> cases gone
  | cancel target token =>
    simp only [react] at gone
    split at gone <;> cases gone
  | sweep now =>
    simp only [react, sweep] at gone ⊢
    split at gone
    · cases gone
    · next s found =>
      cases idle : s.isIdle policy now with
      | true => simp [found, loses, closed]
      | false => simp [Registry.sweepEvents, idle] at gone
  | shutdown =>
    simp only [react] at gone ⊢
    cases found : sh.session with
    | none => simp [found] at gone
    | some s => simp [loses, found, closed]

theorem react_closed (unasked : action.isRequestOf gateway = false) :
    closed.react policy gateway action = closed.quiet := by
  have heard {p : Packet} {source : Address} {now : Instant}
      (brought : action.heard? = some (p, source, now)) :
      closed.hear gateway p source now = closed.quiet := by
    have other {sender : GatewayId} (names : p.kind.namesGateway = true)
        (sent : p.gateway = some sender) : sender ≠ gateway := by
      rintro rfl
      rw [Action.isRequestOf, Action.request?_of_names brought names sent] at unasked
      simp at unasked
    have unclaimed : closed.claim source false = closed := claim_unowned rfl
    unfold hear
    split
    · next kind sent => rw [if_neg (other (by rw [kind]; rfl) sent), unclaimed]
    · next kind sent => rw [if_neg (other (by rw [kind]; rfl) sent), unclaimed]
    · rfl
    · rfl
    · rfl
  cases action with
  | receive datagram source now =>
    simp only [react]
    split
    · next brought => exact heard brought
    · rfl
  | handle p source now => exact heard rfl
  | send target command now =>
    simp only [react]
    split <;> rfl
  | cancel target token =>
    simp only [react]
    split <;> rfl
  | sweep now => rfl
  | shutdown => rfl

end Share

theorem Registry.contact?_of_foreign {r : Registry} {gateway : GatewayId} {p : Packet}
    {source : Address} {now : Instant}
    (foreign : p.kind.namesGateway = true → p.gateway ≠ some gateway)
    (unowned : r.peers[source]? ≠ some gateway) : r.contact? gateway p source now = none := by
  unfold contact?
  split
  · next kind => exact if_neg (foreign (by rw [kind]; rfl))
  · next kind => exact if_neg (foreign (by rw [kind]; rfl))
  · exact if_neg unowned
  · exact if_neg unowned
  · rfl

namespace Step

open Registry

variable {s : Step} {gateway : GatewayId}

theorem closes_of_disconnected (gone : .gatewayDisconnected gateway ∈ s.events) :
    s.closes gateway = true := by
  have own : .gatewayDisconnected gateway ∈ s.events.filter fun e => e.gateway = gateway :=
    List.mem_filter.mpr ⟨gone, by simp [Event.gateway]⟩
  rw [events, answer, outcome, events_perform] at own
  have lost := Share.loses_of_disconnected own
  rwa [← share_perform] at lost

theorem events_of_closes (closes : s.closes gateway = true) :
    ∃ session, s.before.session? gateway = some session ∧
      (s.events.filter fun e => e.gateway = gateway) = closingEvents gateway session := by
  have lost : (s.before.share gateway).loses (s.after.share gateway) = true := closes
  rw [after, outcome, share_perform] at lost
  obtain ⟨session, found, told⟩ := Share.events_of_loses lost
  exact ⟨session, found, (events_perform s.before gateway s.action).trans told⟩

theorem disconnects_of_closes (closes : s.closes gateway = true) :
    Disconnects gateway s.events := by
  obtain ⟨session, -, own⟩ := events_of_closes closes
  obtain ⟨front, rest, split, failures, gone⟩ := List.filter_eq_append_iff.mp own
  obtain ⟨between, back, split', foreign, -, nothing⟩ := List.filter_eq_cons_iff.mp gone
  refine ⟨front ++ between, back, ?_, fun event member here => ?_, fun event member => ?_⟩
  · rw [split, split', List.append_assoc]
  · rcases List.mem_append.mp member with early | late
    · have failed : event ∈ session.outstanding.map (Event.downlinkFailed gateway) := by
        rw [← failures]
        exact List.mem_filter.mpr ⟨early, by simpa using here⟩
      obtain ⟨token, -, rfl⟩ := List.mem_map.mp failed
      exact ⟨token, rfl⟩
    · exact absurd (by simpa using here) (foreign event late)
  · simpa using List.filter_eq_nil_iff.mp nothing event member

theorem count_disconnected (s : Step) (gateway : GatewayId) :
    s.events.count (.gatewayDisconnected gateway) = (s.closes gateway).toNat := by
  cases closes : s.closes gateway with
  | true =>
    obtain ⟨session, -, own⟩ := events_of_closes closes
    have here : decide ((Event.gatewayDisconnected gateway).gateway = gateway) = true := by
      simp [Event.gateway]
    rw [← List.count_filter (p := fun e => decide (e.gateway = gateway)) here, own, closingEvents,
      List.count_append, List.count_eq_zero.mpr (by simp), List.count_singleton_self]
    rfl
  | false =>
    refine List.count_eq_zero.mpr fun gone => ?_
    rw [closes_of_disconnected gone] at closes
    cases closes

theorem closed_of_closes (closes : s.closes gateway = true) :
    s.after.share gateway = Share.closed :=
  (s.change gateway).eq_closed closes

theorem silent_of_closed (closed : s.before.share gateway = Share.closed)
    (unasked : s.action.isRequestOf gateway = false) :
    s.Silent gateway ∧ s.after.share gateway = Share.closed := by
  have reacts : (s.before.share gateway).react s.before.policy gateway s.action =
      Share.closed.quiet := by
    rw [closed]
    exact Share.react_closed unasked
  refine ⟨⟨fun event member => ?_, ?_, ?_⟩, ?_⟩
  · have told := events_perform s.before gateway s.action
    rw [reacts] at told
    simpa using List.filter_eq_nil_iff.mp told event member
  · cases brought : s.action.heard? with
    | none => exact contact?_of_unheard brought
    | some heard =>
      obtain ⟨p, source, now⟩ := heard
      have foreign (names : p.kind.namesGateway = true) : p.gateway ≠ some gateway := by
        intro own
        rw [Action.isRequestOf, Action.request?_of_names brought names own] at unasked
        simp at unasked
      have unowned : s.before.peers[source]? ≠ some gateway := by
        rw [ne_eq, ← owns_share, closed]
        exact Bool.false_ne_true
      rw [contact?, brought, Option.bind_some]
      exact contact?_of_foreign foreign unowned
  · have gone : s.before.session? gateway = none := congrArg Share.session closed
    obtain ⟨r, action⟩ := s
    cases action with
    | send target command now =>
      simp only [sends]
      split
      · next own =>
        subst own
        simp [answer, outcome, perform, Outcome.map, send_unknown now command gone,
          Answer.outbounds]
      · rfl
    | sweep now =>
      simp only [sends, closed]
      rfl
    | _ =>
      simp only [sends]
      exact if_neg (Bool.eq_false_iff.mp unasked)
  · rw [after, outcome, share_perform, reacts]
    rfl

theorem mem_outbounds {out : Outbound} :
    out ∈ s.answer.outbounds ↔ ∃ gateway, out ∈ s.sends gateway := by
  have asked {p : Packet} {source : Address} {now : Instant}
      (brought : s.action.heard? = some (p, source, now))
      (replied : out ∈ (s.before.handle p source now).answer.reply.toList) :
      ∃ gateway, s.action.isRequestOf gateway = true := by
    rw [Option.mem_toList, reply_handle] at replied
    split at replied
    · next gateway kind own =>
      refine ⟨gateway, Action.isRequestOf_iff.mpr ⟨source, ?_⟩⟩
      exact Action.request?_of_names brought (by rw [kind]; rfl) own
    · next gateway kind own =>
      refine ⟨gateway, Action.isRequestOf_iff.mpr ⟨source, ?_⟩⟩
      exact Action.request?_of_names brought (by rw [kind]; rfl) own
    · cases replied
  obtain ⟨r, action⟩ := s
  cases action with
  | receive datagram source now =>
    simp only [sends, List.mem_ite_nil_right, exists_and_right]
    refine (and_iff_right_of_imp fun sent => ?_).symm
    cases decoded : Packet.decode datagram with
    | error fault => simp [answer, outcome, perform, Outcome.map, receive, decoded,
        Answer.outbounds] at sent
    | ok p =>
      have brought : (Action.receive datagram source now).heard? = some (p, source, now) := by
        rw [Action.heard?, decoded]
      refine asked brought ?_
      simpa [answer, outcome, perform, Outcome.map, receive, decoded, Answer.outbounds] using sent
  | handle p source now =>
    simp only [sends, List.mem_ite_nil_right, exists_and_right]
    exact (and_iff_right_of_imp fun sent => asked rfl sent).symm
  | send target command now =>
    simp [sends]
  | cancel target token =>
    simp [sends, answer, outcome, perform, Outcome.map, Answer.outbounds]
  | sweep now =>
    simp only [sends, answer, outcome, perform, Outcome.map, Answer.outbounds, Registry.sweep,
      List.mem_flatMap, Prod.exists, Std.ExtTreeMap.mem_toList_iff_getElem?_eq_some]
    refine exists_congr fun gateway => ?_
    rw [Share.sweep, share, session?]
    cases r.sessions[gateway]? <;> simp [Share.quiet]
  | shutdown =>
    simp [sends, answer, outcome, perform, Outcome.map, Answer.outbounds]

end Step

namespace Registry

variable {gateway : GatewayId}

theorem activity_run (r : Registry) (actions : List Action) (gateway : GatewayId) :
    (r.steps actions).countP (·.opens gateway) + (r.isActive gateway).toNat =
      ((r.steps actions).flatMap Step.events).count (.gatewayDisconnected gateway) +
        ((r.run actions).1.isActive gateway).toNat := by
  -- the openings and closings of the single steps, added up for whatever registry the run starts from
  induction actions generalizing r with
  | nil => simp [steps, run]
  | cons action rest ih =>
    have rest_activity := ih (r.perform action).registry
    have step_activity := Step.activity ⟨r, action⟩ gateway
    have counted (b : Bool) : (if b = true then 1 else 0) = b.toNat := by cases b <;> rfl
    simp only [← Step.count_disconnected, Step.after, Step.outcome] at step_activity
    simp only [steps, List.countP_cons, List.flatMap_cons, List.count_append, run_registry_cons,
      counted]
    omega

theorem silent_of_unasked {r : Registry} {quiet : List Action}
    (closed : r.share gateway = Share.closed)
    (unasked : ∀ action ∈ quiet, action.isRequestOf gateway = false) :
    ∀ s ∈ r.steps quiet, s.Silent gateway := by
  induction quiet generalizing r with
  | nil => exact List.forall_mem_nil _
  | cons action rest ih =>
    obtain ⟨first, still⟩ := Step.silent_of_closed (s := ⟨r, action⟩) closed
      (unasked action List.mem_cons_self)
    have later := ih still fun next member => unasked next (List.mem_cons_of_mem action member)
    rw [steps, List.forall_mem_cons]
    exact ⟨first, later⟩

theorem registry_shutdown (policy : Policy) (actions : List Action) :
    (((empty policy).run actions).1.perform .shutdown).registry = empty policy := by
  change empty ((empty policy).run actions).1.policy = empty policy
  rw [policy_run]
  rfl

/-- The sessions of a gateway are opened by requests that find none, and each but the current one has ended
with a report that the gateway is gone, which comes after all failures of its downlinks. Until its next request
the gateway is left in silence. After a shutdown everything is as it was in the beginning. -/
theorem session_lifecycle (policy : Policy) (actions : List Action) (gateway : GatewayId) :
    let steps := (empty policy).steps actions
    let last := ((empty policy).run actions).1
    ((steps.countP (·.opens gateway) : Int) -
        (steps.flatMap Step.events).count (.gatewayDisconnected gateway) =
      if last.isActive gateway then 1 else 0) ∧
    (∀ action, let s : Step := ⟨last, action⟩
      .gatewayDisconnected gateway ∈ s.events →
        Disconnects gateway s.events ∧
        ∀ quiet, (∀ later ∈ quiet, later.isRequestOf gateway = false) →
          ∀ later ∈ s.after.steps quiet, later.Silent gateway) ∧
    (∀ action out, out ∈ (last.perform action).answer.outbounds ↔
      ∃ other, out ∈ (Step.mk last action).sends other) ∧
    (last.perform .shutdown).registry = empty policy ∧
    ∀ later, (last.perform .shutdown).registry.run later = (empty policy).run later := by
  intro steps last
  refine ⟨?_, fun action gone => ?_, fun action out => Step.mem_outbounds (s := ⟨last, action⟩),
    registry_shutdown policy actions, fun later => by rw [registry_shutdown]⟩
  · have activity := activity_run (empty policy) actions gateway
    rw [isActive_eq, session?_empty] at activity
    change steps.countP (·.opens gateway) + 0 =
      (steps.flatMap Step.events).count (.gatewayDisconnected gateway) +
        (last.isActive gateway).toNat at activity
    cases active : last.isActive gateway with
    | true =>
      rw [active, Bool.toNat_true] at activity
      rw [if_pos rfl]
      omega
    | false =>
      rw [active, Bool.toNat_false] at activity
      rw [if_neg Bool.false_ne_true]
      omega
  · have closes := Step.closes_of_disconnected gone
    refine ⟨Step.disconnects_of_closes closes, fun quiet unasked => ?_⟩
    exact silent_of_unasked (Step.closed_of_closes closes) unasked

/-- A gateway that is evicted with a downlink outstanding, and whose acknowledgment comes too late. -/
theorem session_lifecycle_evicted :
    let gateway := GatewayId.ofNumber 1
    let address : Address := ⟨"192.0.2.1:1700"⟩
    let command := DownlinkCommand.plain ⟨0x408B200000000000⟩ 14 (.fsk 50000) [1]
    let actions := [.handle (.pullData ⟨7⟩ gateway) address 0, .send gateway command 59000]
    let s : Step := ⟨((empty .standard).run actions).1, .sweep 60000⟩
    s.events = [.downlinkFailed gateway ⟨0⟩, .gatewayDisconnected gateway] ∧
      Disconnects gateway s.events ∧
      ∀ later ∈ s.after.steps [.handle (.pullAck ⟨0⟩) address 60001, .send gateway command 60002],
        later.Silent gateway := by
  intro gateway address command actions s
  have events : s.events = [.downlinkFailed gateway ⟨0⟩, .gatewayDisconnected gateway] := by
    decide +kernel
  have gone : .gatewayDisconnected gateway ∈ s.events := by
    rw [events]
    exact List.mem_cons_of_mem _ (List.mem_singleton_self _)
  obtain ⟨order, silence⟩ :=
    (session_lifecycle .standard actions gateway).2.1 (.sweep 60000) gone
  exact ⟨events, order, silence _ (by decide)⟩

end Registry

end GatewayLink
