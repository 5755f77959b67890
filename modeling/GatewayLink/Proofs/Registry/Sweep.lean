import Mathlib.Data.List.Nodup
import GatewayLink.Proofs.Registry.Passes

/-! What a sweep does, gateway by gateway.
It closes the sessions that have been without a keep-alive for the inactivity window, and spares the others. A
session that is spared only changes in its overdue downlinks. After a sweep nothing is left to do, so that
another one at that instant or before does nothing. -/

namespace GatewayLink

theorem Session.isIdle_eq_true {s : Session} {policy : Policy} {now : Instant} :
    s.isIdle policy now = true ↔ 1000 * policy.inactivity.toNat ≤ now - s.lastKeepalive :=
  decide_eq_true_iff

theorem Session.isIdle_eq_false {s : Session} {policy : Policy} {now : Instant} :
    s.isIdle policy now = false ↔ now - s.lastKeepalive < 1000 * policy.inactivity.toNat := by
  rw [← Bool.not_eq_true, isIdle_eq_true, Nat.not_le]

/-- What becomes of a token of a session that a sweep spares: the downlink that is outstanding then, what is
sent for it, and how often it is reported to have failed. -/
inductive Session.Treats (s : Session) (policy : Policy) (now : Instant) (token : Token) :
    Option Pending → List Outbound → Nat → Prop where
  | free (absent : s.pending[token]? = none) : Treats s policy now token none [] 0
  | waits (p : Pending) (found : s.pending[token]? = some p) (early : now < p.deadline) :
    Treats s policy now token (some p) [] 0
  | retried (p : Pending) (route : Address) (found : s.pending[token]? = some p)
      (due : p.deadline ≤ now) (routed : s.route = some route)
      (left : p.retries < policy.maxRetries.toNat) :
    Treats s policy now token (some ⟨p.packet, now + policy.ackTimeout.toNat, p.retries + 1⟩)
      [⟨route, p.packet⟩] 0
  | failed (p : Pending) (found : s.pending[token]? = some p) (due : p.deadline ≤ now)
      (spent : s.route = none ∨ policy.maxRetries.toNat ≤ p.retries) :
    Treats s policy now token none [] 1

theorem Session.treats_fate (s : Session) (policy : Policy) (now : Instant) (token : Token) :
    s.Treats policy now token
      (s.pending[token]?.bind fun p => (p.fate policy s.route now).kept p)
      (match s.pending[token]? with
        | some p => (p.fate policy s.route now).outbound?.toList
        | none => [])
      (if s.pending[token]?.any fun p => (p.fate policy s.route now).isFailure then 1 else 0) := by
  cases found : s.pending[token]? with
  | none => exact .free found
  | some p =>
    rcases p.fate_cases policy s.route now with
      ⟨early, fate⟩ | ⟨due, spent, fate⟩ | ⟨route, due, routed, left, fate⟩ <;>
      simp only [Option.bind_some, Option.any_some, fate]
    · exact .waits p found early
    · exact .failed p found due spent
    · exact .retried p route found due routed left

namespace Registry

variable (r : Registry) (now : Instant) (gateway : GatewayId)

/-- The session of a gateway is closed: nothing is left of it, nothing is sent for it, and everything that was
outstanding is reported to have failed before the gateway is reported gone. -/
structure Evicted (s : Session) : Prop where
  closed : (r.sweep now).registry.session? gateway = none
  forgotten : ∀ address : Address, (r.sweep now).registry.peers[address]? ≠ some gateway
  unsent : ∀ token, r.resends now gateway token = []
  reported : ((r.sweep now).answer.events.filter fun event => event.gateway = gateway) =
    s.outstanding.map (.downlinkFailed gateway) ++ [.gatewayDisconnected gateway]

/-- The session of a gateway stays, with the fields that it had, and each of its downlinks is treated by
itself. -/
structure Spared (s : Session) : Prop where
  kept : ∃ pending, (r.sweep now).registry.session? gateway = some { s with pending := pending } ∧
    ∀ token, s.Treats r.policy now token pending[token]? (r.resends now gateway token)
      ((r.sweep now).answer.events.count (.downlinkFailed gateway token))
  addresses : ∀ address : Address, (r.sweep now).registry.peers[address]? = some gateway ↔
    r.peers[address]? = some gateway
  reported : ∀ event ∈ (r.sweep now).answer.events, event.gateway = gateway →
    ∃ token, event = .downlinkFailed gateway token

/-- Of a gateway without a session a sweep knows nothing. -/
structure Unmoved : Prop where
  absent : (r.sweep now).registry.session? gateway = none
  addresses : ∀ address : Address, (r.sweep now).registry.peers[address]? = some gateway ↔
    r.peers[address]? = some gateway
  unsent : ∀ token, r.resends now gateway token = []
  unreported : ∀ event ∈ (r.sweep now).answer.events, event.gateway ≠ gateway

theorem events_sweep :
    ((r.sweep now).answer.events.filter fun event => event.gateway = gateway) =
      ((r.session? gateway).map (sweepEvents r.policy now gateway)).getD [] :=
  filter_flatMap_sessions r gateway (sweepEvents r.policy now) fun _ _ _ => gateway_sweepEvents

theorem mem_events_sweep {event : Event} :
    event ∈ (r.sweep now).answer.events ↔
      ∃ s, r.session? event.gateway = some s ∧ event ∈ sweepEvents r.policy now event.gateway s := by
  have own : event ∈ (r.sweep now).answer.events ↔
      event ∈ (r.sweep now).answer.events.filter fun other => other.gateway = event.gateway := by
    simp
  rw [own, events_sweep]
  cases r.session? event.gateway <;> simp

theorem count_events_sweep (event : Event) :
    (r.sweep now).answer.events.count event =
      (((r.session? event.gateway).map (sweepEvents r.policy now event.gateway)).getD []).count
        event := by
  rw [← events_sweep]
  exact (List.count_filter (by simp)).symm

variable {r now gateway} {s : Session}

theorem peers_of_spared (spared : r.evicts now gateway = false) (address : Address) :
    (r.sweep now).registry.peers[address]? = some gateway ↔ r.peers[address]? = some gateway := by
  rw [peers_sweep, Option.filter_eq_some_iff, spared]
  exact and_iff_left rfl

theorem peers_of_evicted (evicted : r.evicts now gateway = true) (address : Address) :
    (r.sweep now).registry.peers[address]? ≠ some gateway := by
  rw [peers_sweep, ne_eq, Option.filter_eq_some_iff, evicted]
  exact fun both => Bool.false_ne_true both.2

theorem evicted_of_idle (found : r.session? gateway = some s)
    (idle : s.isIdle r.policy now = true) : r.Evicted now gateway s where
  closed := by rw [session?_sweep, found, Option.bind_some, if_pos idle]
  forgotten := peers_of_evicted (by rw [evicts, found]; exact idle)
  unsent token := by
    rw [resends, found]
    exact if_pos idle
  reported := by
    rw [events_sweep, found, Option.map_some, Option.getD_some, sweepEvents, if_pos idle]
    rfl

theorem spared_of_awake (found : r.session? gateway = some s)
    (awake : s.isIdle r.policy now = false) : r.Spared now gateway s where
  kept := by
    refine ⟨(s.expire r.policy now).pending, ?_, fun token => ?_⟩
    · rw [session?_sweep, found, Option.bind_some, awake]
      rfl
    · have failed : (r.sweep now).answer.events.count (.downlinkFailed gateway token) =
          if s.pending[token]?.any fun p => (p.fate r.policy s.route now).isFailure then 1
          else 0 := by
        rw [count_events_sweep, Event.gateway, found, Option.map_some, Option.getD_some,
          sweepEvents, awake]
        exact count_failed_failures gateway token now r.policy s
      rw [Session.pending_expire, resends, found, failed]
      dsimp only
      rw [awake]
      exact s.treats_fate r.policy now token
  addresses := peers_of_spared (by rw [evicts, found]; exact awake)
  reported event member own := by
    obtain ⟨t, there, told⟩ := (mem_events_sweep r now).mp member
    rw [own] at there told
    cases found.symm.trans there
    rw [sweepEvents, awake] at told
    obtain ⟨token, -, same⟩ := List.mem_map.mp told
    exact ⟨token, same.symm⟩

theorem unmoved_of_absent (absent : r.session? gateway = none) : r.Unmoved now gateway where
  absent := by rw [session?_sweep, absent]; rfl
  addresses := peers_of_spared (by rw [evicts, absent])
  unsent token := by rw [resends, absent]
  unreported event member own := by
    obtain ⟨s, there, -⟩ := (mem_events_sweep r now).mp member
    rw [own, absent] at there
    cases there

theorem nodup_sweepEvents (policy : Policy) (s : Session) :
    (sweepEvents policy now gateway s).Nodup := by
  have distinct : s.outstanding.Nodup := s.pending.nodup_keys
  rw [sweepEvents]
  split
  · rw [closingEvents, List.nodup_append]
    refine ⟨distinct.map (failed_injective gateway), List.nodup_singleton _, ?_⟩
    simp
  · exact ((s.failures_sublist policy now).nodup distinct).map (failed_injective gateway)

theorem nodup_events (r : Registry) (now : Instant) : (r.sweep now).answer.events.Nodup := by
  refine List.nodup_iff_count_le_one.mpr fun event => ?_
  rw [count_events_sweep]
  refine List.nodup_iff_count_le_one.mp ?_ event
  cases r.session? event.gateway with
  | none => exact List.nodup_nil
  | some s => exact nodup_sweepEvents r.policy s

/-- A sweep treats each session by itself, and comes to one decision on it even though it passes twice: it
closes the session if the last keep-alive is the inactivity window ago or longer, and spares it otherwise. What
it sends and reports is what it sends and reports for the single sessions, each once. -/
theorem sweep_session_by_session (r : Registry) (now : Instant) :
    ((r.sweepInPasses now).registry = (r.sweep now).registry ∧
      (r.sweepInPasses now).answer.retransmissions = (r.sweep now).answer.retransmissions ∧
      (r.sweepInPasses now).answer.events.Perm (r.sweep now).answer.events ∧
      (∀ gateway, ((r.sweepInPasses now).answer.events.filter fun event => event.gateway = gateway) =
        (r.sweep now).answer.events.filter fun event => event.gateway = gateway) ∧
      (r.sweepInPasses now).notices.Perm (r.sweep now).notices) ∧
    (∀ gateway,
      match r.session? gateway with
      | some s =>
        (1000 * r.policy.inactivity.toNat ≤ now - s.lastKeepalive ∧ r.Evicted now gateway s) ∨
          (now - s.lastKeepalive < 1000 * r.policy.inactivity.toNat ∧ r.Spared now gateway s)
      | none => r.Unmoved now gateway) ∧
    (r.sweep now).answer.retransmissions =
      (r.sessions.toList.flatMap fun (gateway, s) =>
        s.outstanding.flatMap fun token => r.resends now gateway token) ∧
    (r.sweep now).answer.events.Nodup := by
  obtain ⟨registry, retransmissions, events, notices⟩ := r.sweepInPasses_eq now
  refine ⟨⟨registry, retransmissions, ?_, fun gateway => ?_, ?_⟩, fun gateway => ?_,
    r.retransmissions_eq_resends now, nodup_events r now⟩
  · rw [events]
    exact r.inPasses_perm now _
  · rw [events]
    exact r.filter_inPasses now gateway _ fun _ _ _ => gateway_sweepEvents
  · rw [notices]
    exact r.inPasses_perm now _
  cases found : r.session? gateway with
  | none => exact unmoved_of_absent found
  | some s =>
    cases idle : s.isIdle r.policy now with
    | true => exact .inl ⟨Session.isIdle_eq_true.mp idle, evicted_of_idle found idle⟩
    | false => exact .inr ⟨Session.isIdle_eq_false.mp idle, spared_of_awake found idle⟩

example :
    let first := GatewayId.ofNumber 1
    let second := GatewayId.ofNumber 2
    let command := DownlinkCommand.plain ⟨0x408B200000000000⟩ 14 (.fsk 50000) [1]
    let r := ((empty .standard).run
      [.handle (.pullData ⟨7⟩ first) ⟨"192.0.2.1:1700"⟩ 0,
        .handle (.pullData ⟨7⟩ second) ⟨"192.0.2.2:1700"⟩ 1,
        .send first command 5, .send second command 5]).1
    (r.sweepInPasses 60000).answer =
      ⟨[⟨⟨"192.0.2.2:1700"⟩, .pullResp ⟨0⟩ command⟩],
        [.downlinkFailed first ⟨0⟩, .gatewayDisconnected first]⟩ := by
  decide +kernel

/-- At an instant, no gateway is idle and no downlink is overdue. -/
structure Calm (r : Registry) (now : Instant) : Prop where
  awake : ∀ gateway s, r.session? gateway = some s →
    now - s.lastKeepalive < 1000 * r.policy.inactivity.toNat
  early : ∀ gateway token p, r.downlink? gateway token = some p → now < p.deadline

theorem Calm.before {earlier : Instant} (calm : r.Calm now) (notLater : earlier ≤ now) :
    r.Calm earlier where
  awake gateway s found :=
    Nat.lt_of_le_of_lt (Nat.sub_le_sub_right notLater s.lastKeepalive) (calm.awake gateway s found)
  early gateway token p held := Nat.lt_of_le_of_lt notLater (calm.early gateway token p held)

theorem exists_spared {t : Session} (stays : (r.sweep now).registry.session? gateway = some t) :
    ∃ s, r.session? gateway = some s ∧ s.isIdle r.policy now = false ∧ t = s.expire r.policy now := by
  rw [session?_sweep] at stays
  obtain ⟨s, found, kept⟩ := Option.bind_eq_some_iff.mp stays
  split at kept
  · cases kept
  · next awake =>
    cases kept
    exact ⟨s, found, Bool.eq_false_iff.mpr awake, rfl⟩

theorem calm_sweep (waits : 0 < r.policy.ackTimeout) : (r.sweep now).registry.Calm now where
  awake gateway t stays := by
    obtain ⟨s, -, awake, rfl⟩ := exists_spared stays
    exact Session.isIdle_eq_false.mp awake
  early gateway token q held := by
    obtain ⟨t, stays, held⟩ := Option.bind_eq_some_iff.mp held
    obtain ⟨s, -, -, rfl⟩ := exists_spared stays
    rw [Session.pending_expire] at held
    obtain ⟨p, -, kept⟩ := Option.bind_eq_some_iff.mp held
    rcases p.fate_cases r.policy s.route now with
      ⟨early, fate⟩ | ⟨-, -, fate⟩ | ⟨route, -, -, -, fate⟩ <;> rw [fate] at kept <;> cases kept
    · exact early
    · exact Nat.lt_add_of_pos_right waits

theorem Calm.still (calm : r.Calm now) (found : r.session? gateway = some s) :
    s.isIdle r.policy now = false ∧ s.expire r.policy now = s ∧
      ∀ entry ∈ s.fates r.policy now, entry.2 = .waits := by
  have waiting (token : Token) (p : Pending) (held : s.pending[token]? = some p) :
      p.fate r.policy s.route now = .waits := by
    refine Pending.fate_of_early (Nat.not_le.mpr (calm.early gateway token p ?_)) _ _
    rw [downlink?, found, Option.bind_some, held]
  refine ⟨Session.isIdle_eq_false.mpr (calm.awake gateway s found), ?_, ?_⟩
  · refine Session.ext_downlinks fun token => Prod.ext rfl ?_
    dsimp only
    rw [Session.pending_expire]
    cases held : s.pending[token]? with
    | none => rfl
    | some p => rw [Option.bind_some, waiting token p held]; rfl
  · intro entry member
    obtain ⟨⟨token, p⟩, listed, rfl⟩ := List.mem_map.mp member
    exact waiting token p (Std.ExtTreeMap.mem_toList_iff_getElem?_eq_some.mp listed)

theorem registry_of_calm (calm : r.Calm now) : (r.sweep now).registry = r := by
  refine ext_shares fun gateway => Prod.ext rfl ?_
  dsimp only
  rw [share_sweep, Share.share_sweep_eq, Share.passed, session_share]
  cases found : r.session? gateway with
  | none => rfl
  | some s =>
    obtain ⟨awake, same, -⟩ := calm.still found
    dsimp only
    rw [awake, if_neg Bool.false_ne_true, same, Share.withSession, ← found]
    rfl

theorem findings_of_calm (calm : r.Calm now) : (r.passes now).2 = [] := by
  rw [findings_passes, List.append_eq_nil_iff, List.flatMap_eq_nil_iff, List.flatMap_eq_nil_iff]
  have still (gateway : GatewayId) (s : Session) (member : (gateway, s) ∈ r.sessions.toList) := by
    have found : r.session? gateway = some s := Std.ExtTreeMap.mem_toList_iff_getElem?_eq_some.mp member
    exact calm.still found
  constructor
  · rintro ⟨gateway, s⟩ member
    obtain ⟨awake, -, waiting⟩ := still gateway s member
    dsimp only
    rw [awake, if_neg Bool.false_ne_true, Session.expiry, List.flatMap_eq_nil_iff]
    rintro ⟨token, fate⟩ listed
    obtain rfl : fate = .waits := waiting _ listed
    rfl
  · rintro ⟨gateway, s⟩ member
    exact if_neg (Bool.eq_false_iff.mp (still gateway s member).1)

theorem sweep_of_calm (calm : r.Calm now) :
    r.sweep now = ⟨⟨[], []⟩, r, []⟩ ∧ r.sweepInPasses now = ⟨⟨[], []⟩, r, []⟩ := by
  have passes : r.sweepInPasses now = ⟨⟨[], []⟩, r, []⟩ := by
    rw [sweepInPasses, findings_of_calm calm, registry_passes, registry_of_calm calm]
    rfl
  obtain ⟨-, retransmissions, events, notices⟩ := r.sweepInPasses_eq now
  rw [passes] at retransmissions events notices
  have unreported : (r.sweep now).answer.events = [] :=
    (events ▸ r.inPasses_perm now (sweepEvents r.policy now)).nil_eq.symm
  have unnoticed : (r.sweep now).notices = [] :=
    (notices ▸ r.inPasses_perm now (sweepNotices r.policy now)).nil_eq.symm
  have silent : (r.sweep now).answer = ⟨[], []⟩ :=
    congrArg₂ Sweep.mk retransmissions.symm unreported
  exact ⟨congr (congrArg₂ Outcome.mk silent (registry_of_calm calm)) unnoticed, passes⟩

/-- If acknowledgments are waited for at all, a sweep leaves nothing to do, and another one at that instant or
before does nothing. -/
theorem sweep_again (r : Registry) (now earlier : Instant) (waits : 0 < r.policy.ackTimeout)
    (notLater : earlier ≤ now) :
    (r.sweep now).registry.Calm now ∧
      (r.sweep now).registry.sweep earlier = ⟨⟨[], []⟩, (r.sweep now).registry, []⟩ ∧
      (r.sweepInPasses now).registry.sweepInPasses earlier =
        ⟨⟨[], []⟩, (r.sweepInPasses now).registry, []⟩ := by
  have calm : (r.sweep now).registry.Calm now := calm_sweep waits
  rw [(r.sweepInPasses_eq now).1]
  exact ⟨calm, sweep_of_calm (calm.before notLater)⟩

/-- A downlink that was sent at 5 is sent again at 2005, but not twice. -/
theorem sweep_again_retried :
    let gateway := GatewayId.ofNumber 1
    let command := DownlinkCommand.plain ⟨0x408B200000000000⟩ 14 (.fsk 50000) [1]
    let r := ((empty .standard).run
      [.handle (.pullData ⟨7⟩ gateway) ⟨"192.0.2.1:1700"⟩ 0, .send gateway command 5]).1
    let swept := r.sweep 2005
    swept.answer.retransmissions = [⟨⟨"192.0.2.1:1700"⟩, .pullResp ⟨0⟩ command⟩] ∧
      0 < r.policy.ackTimeout ∧ swept.registry.Calm 2005 ∧
      swept.registry.sweep 2005 = ⟨⟨[], []⟩, swept.registry, []⟩ := by
  intro gateway command r swept
  have sent : swept.answer.retransmissions = [⟨⟨"192.0.2.1:1700"⟩, .pullResp ⟨0⟩ command⟩] := by
    decide +kernel
  have waits : 0 < r.policy.ackTimeout := by decide +kernel
  obtain ⟨calm, again, -⟩ := sweep_again r 2005 2005 waits (Nat.le_refl _)
  exact ⟨sent, waits, calm, again⟩

end Registry

end GatewayLink
