import GatewayLink.Proofs.Registry.Downlink

/-! Steps of a run, and everything that one of them can do to one downlink.
A step leaves marks of a downlink in its answer: an acceptance, an acknowledgment, a failure, a withdrawal,
or packets sent again. `Step.turn` lists the possible steps with their marks. -/

namespace GatewayLink

structure Step where
  before : Registry
  action : Action

/-- What a step tells of one downlink: how often it was accepted, acknowledged, failed and withdrawn, and
the packets sent again for it. -/
structure Marks where
  accepted : Nat
  acked : Nat
  failed : Nat
  withdrawn : Nat
  resent : List Outbound
  deriving DecidableEq

namespace Marks

def none : Marks := ⟨0, 0, 0, 0, []⟩

def endings (m : Marks) : Nat := m.acked + m.failed + m.withdrawn

end Marks

namespace Step

variable (s : Step) (gateway : GatewayId) (token : Token)

def outcome : Outcome Answer := s.before.perform s.action

def after : Registry := s.outcome.registry

def answer : Answer := s.outcome.answer

def events : List Event := s.answer.events

def accepts : Bool :=
  match s.action, s.answer with
  | .send target _ _, .sent (.ok out) => target = gateway ∧ out.packet.token = token
  | _, _ => false

def withdraws : Bool :=
  match s.action, s.answer with
  | .cancel target cancelled, .cancelled (.ok _) => target = gateway ∧ cancelled = token
  | _, _ => false

def resends : List Outbound :=
  match s.action with
  | .sweep now => s.before.resends now gateway token
  | _ => []

def marks : Marks :=
  ⟨(s.accepts gateway token).toNat, s.events.count (.downlinkAcked gateway token),
    s.events.count (.downlinkFailed gateway token), (s.withdraws gateway token).toNat,
    s.resends gateway token⟩

end Step

/-- Everything a step can do to a downlink. -/
inductive Turn (s : Step) (gateway : GatewayId) (token : Token) : Prop where
  /-- A sweep that does nothing to a downlink comes before its deadline. -/
  | nothing (same : s.after.downlink? gateway token = s.before.downlink? gateway token)
      (marks : s.marks gateway token = .none)
      (early : ∀ p now, s.before.downlink? gateway token = some p → s.action = .sweep now →
        now < p.deadline)
  | accepted (command : DownlinkCommand) (now : Instant)
      (action : s.action = .send gateway command now)
      (free : s.before.downlink? gateway token = none)
      (held : s.after.downlink? gateway token =
        some ⟨.pullResp token command, now + s.before.policy.ackTimeout.toNat, 0⟩)
      (routed : ∃ session, s.before.session? gateway = some session ∧ session.route.isSome)
      (marks : s.marks gateway token = ⟨1, 0, 0, 0, []⟩)
  | acked (p : Pending) (held : s.before.downlink? gateway token = some p)
      (gone : s.after.downlink? gateway token = none)
      (marks : s.marks gateway token = ⟨0, 1, 0, 0, []⟩)
  | withdrawn (p : Pending) (held : s.before.downlink? gateway token = some p)
      (gone : s.after.downlink? gateway token = none)
      (marks : s.marks gateway token = ⟨0, 0, 0, 1, []⟩)
  | retried (p : Pending) (now : Instant) (session : Session) (route : Address)
      (action : s.action = .sweep now)
      (held : s.before.downlink? gateway token = some p)
      (due : p.deadline ≤ now)
      (found : s.before.session? gateway = some session)
      (routed : session.route = some route)
      (left : p.retries < s.before.policy.maxRetries.toNat)
      (next : s.after.downlink? gateway token =
        some { p with retries := p.retries + 1, deadline := now + s.before.policy.ackTimeout.toNat })
      (marks : s.marks gateway token = ⟨0, 0, 0, 0, [⟨route, p.packet⟩]⟩)
  | failed (p : Pending) (now : Instant) (session : Session)
      (action : s.action = .sweep now)
      (held : s.before.downlink? gateway token = some p)
      (due : p.deadline ≤ now)
      (found : s.before.session? gateway = some session)
      (spent : session.route = none ∨ s.before.policy.maxRetries.toNat ≤ p.retries)
      (gone : s.after.downlink? gateway token = none)
      (marks : s.marks gateway token = ⟨0, 0, 1, 0, []⟩)
  | closed (p : Pending) (held : s.before.downlink? gateway token = some p)
      (reported : .gatewayDisconnected gateway ∈ s.events)
      (gone : s.after.downlink? gateway token = none)
      (marks : s.marks gateway token = ⟨0, 0, 1, 0, []⟩)

namespace Share

def downlink? (sh : Share) (token : Token) : Option Pending :=
  sh.session.bind fun s => s.pending[token]?

theorem downlink?_sessionAt (sh : Share) (now : Instant) (token : Token) :
    (sh.sessionAt now).pending[token]? = sh.downlink? token := by
  cases found : sh.session <;> simp [sessionAt, downlink?, found, Session.start]

theorem hear_downlink (gateway : GatewayId) (p : Packet) (source : Address) (now : Instant)
    (sh : Share) (token : Token) :
    let reaction := sh.hear gateway p source now
    reaction.events.count (.downlinkFailed gateway token) = 0 ∧
      ((reaction.share.downlink? token = sh.downlink? token ∧
          reaction.events.count (.downlinkAcked gateway token) = 0) ∨
        ((sh.downlink? token).isSome ∧ reaction.share.downlink? token = none ∧
          reaction.events.count (.downlinkAcked gateway token) = 1)) := by
  have acknowledged (heard : Token) :
      let reaction := sh.acknowledge gateway heard source now
      reaction.events.count (.downlinkFailed gateway token) = 0 ∧
        ((reaction.share.downlink? token = sh.downlink? token ∧
            reaction.events.count (.downlinkAcked gateway token) = 0) ∨
          ((sh.downlink? token).isSome ∧ reaction.share.downlink? token = none ∧
            reaction.events.count (.downlinkAcked gateway token) = 1)) := by
    unfold acknowledge
    split
    · next s _ found =>
      by_cases same : heard = token
      · subst same
        cases held : s.pending[heard]? <;>
          simp [withSession, downlink?, found, Session.pending_acknowledged, held,
            Std.ExtTreeMap.contains_eq_isSome_getElem?]
      · cases s.pending.contains heard <;>
          simp [withSession, downlink?, found, Session.pending_acknowledged, same]
    · simp [quiet]
  obtain ⟨_, heard, kind, sender, body⟩ := p
  cases kind with
  | pushData =>
    cases sender with
    | none => simp [hear, quiet]
    | some sender =>
      by_cases own : sender = gateway
      · have silent := Registry.count_bodyEvents gateway token body
        have kept := downlink?_sessionAt sh now token
        simp only [hear, own, if_true]
        exact ⟨silent.2, .inl ⟨kept, silent.1⟩⟩
      · simp [hear, own, quiet, claim, downlink?]
  | pullData =>
    cases sender with
    | none => simp [hear, quiet]
    | some sender =>
      by_cases own : sender = gateway
      · have kept := downlink?_sessionAt sh now token
        simp only [hear, own, if_true, quiet, List.count_nil]
        exact ⟨trivial, .inl ⟨kept, trivial⟩⟩
      · simp [hear, own, quiet, claim, downlink?]
  | pushAck => exact acknowledged heard
  | pullAck => exact acknowledged heard
  | pullResp => simp [hear, quiet]

end Share

namespace Step

variable (s : Step) (gateway : GatewayId) (token : Token)

theorem downlink?_after :
    s.after.downlink? gateway token =
      ((s.before.share gateway).react s.before.policy gateway s.action).share.downlink? token := by
  rw [← Registry.share_perform]
  rfl

theorem count_events (event : Event) (own : event.gateway = gateway) :
    s.events.count event =
      ((s.before.share gateway).react s.before.policy gateway s.action).events.count event :=
  Registry.count_events s.before gateway s.action event own

theorem marks_eq :
    s.marks gateway token =
      let events := ((s.before.share gateway).react s.before.policy gateway s.action).events
      ⟨(s.accepts gateway token).toNat, events.count (.downlinkAcked gateway token),
        events.count (.downlinkFailed gateway token), (s.withdraws gateway token).toNat,
        s.resends gateway token⟩ := by
  have acked := s.count_events gateway (.downlinkAcked gateway token) rfl
  have failed := s.count_events gateway (.downlinkFailed gateway token) rfl
  rw [marks, acked, failed]

theorem turn_of_hearing {s : Step} (reaction : Reaction)
    (reacts : (s.before.share gateway).react s.before.policy gateway s.action = reaction)
    (silent : reaction.events.count (.downlinkFailed gateway token) = 0)
    (heard : (reaction.share.downlink? token = s.before.downlink? gateway token ∧
        reaction.events.count (.downlinkAcked gateway token) = 0) ∨
      ((s.before.downlink? gateway token).isSome ∧ reaction.share.downlink? token = none ∧
        reaction.events.count (.downlinkAcked gateway token) = 1))
    (accepts : s.accepts gateway token = false) (withdraws : s.withdraws gateway token = false)
    (resends : s.resends gateway token = []) (brought : ∀ now, s.action ≠ .sweep now) :
    Turn s gateway token := by
  have marked := s.marks_eq gateway token
  have after := s.downlink?_after gateway token
  rw [reacts] at marked after
  rcases heard with ⟨same, none_acked⟩ | ⟨held, gone, one_acked⟩
  · refine .nothing (after.trans same) (marked.trans ?_) fun p now _ swept =>
      absurd swept (brought now)
    simp [accepts, withdraws, resends, silent, none_acked, Marks.none]
  · obtain ⟨p, held⟩ := Option.isSome_iff_exists.mp held
    refine .acked p held (after.trans gone) (marked.trans ?_)
    simp [accepts, withdraws, resends, silent, one_acked]

theorem accepts_send (r : Registry) (target : GatewayId) (command : DownlinkCommand)
    (now : Instant) :
    (Step.mk r (.send target command now)).accepts gateway token = true ↔
      target = gateway ∧ ∃ session route, r.session? gateway = some session ∧
        session.issue? command = some (token, route) := by
  have reads : (Step.mk r (.send target command now)).accepts gateway token = true ↔
      ∃ out, (r.send target command now).answer = .ok out ∧
        target = gateway ∧ out.packet.token = token := by
    simp only [accepts, answer, outcome, Registry.perform, Outcome.map]
    cases (r.send target command now).answer <;> simp
  rw [reads]
  constructor
  · rintro ⟨out, answered, rfl, rfl⟩
    obtain ⟨session, issued, found, chosen, packet⟩ :=
      Registry.exists_of_send_eq_ok now command answered
    rw [packet]
    exact ⟨rfl, session, out.address, found, chosen⟩
  · rintro ⟨rfl, session, route, found, chosen⟩
    exact ⟨_, (Registry.answer_send_eq_ok now command found).mpr ⟨token, route, chosen, rfl⟩,
      rfl, rfl⟩

theorem marks_silent {s : Step} {gateway : GatewayId} {token : Token} (silent : s.events = [])
    (resends : s.resends gateway token = []) :
    s.marks gateway token =
      ⟨(s.accepts gateway token).toNat, 0, 0, (s.withdraws gateway token).toNat, []⟩ := by
  simp [marks, silent, resends]

theorem turn_send (r : Registry) (target : GatewayId) (command : DownlinkCommand)
    (now : Instant) : Turn ⟨r, .send target command now⟩ gateway token := by
  let s : Step := ⟨r, .send target command now⟩
  have silent : s.events = [] := rfl
  have after := s.downlink?_after gateway token
  have decides := accepts_send gateway token r target command now
  have ignored (same : s.after.downlink? gateway token = r.downlink? gateway token)
      (refused : ¬ s.accepts gateway token = true) : Turn s gateway token := by
    refine .nothing same ?_ (by simp [s])
    rw [marks_silent silent rfl, Bool.eq_false_iff.mpr refused]
    rfl
  by_cases own : target = gateway
  · subst own
    cases found : r.session? target with
    | none =>
      apply ignored
      · rw [after]
        simp [s, Share.react, Share.quiet, Share.downlink?, Registry.share, found,
          Registry.downlink?]
      · simp [s, decides, found]
    | some session =>
      have pending := session.pending_submitted r.policy now token command
      have becomes : s.after.downlink? target token =
          (session.submitted r.policy command now).pending[token]? := by
        rw [after]
        simp [s, Share.react, Share.quiet, Share.downlink?, Registry.share, found]
      have held : r.downlink? target token = session.pending[token]? := by
        simp [Registry.downlink?, found]
      by_cases chosen : (session.issue? command).map Prod.fst = some token
      · obtain ⟨⟨_, route⟩, issued, rfl⟩ := Option.map_eq_some_iff.mp chosen
        have granted : s.accepts target _ = true :=
          decides.mpr ⟨rfl, session, route, found, issued⟩
        obtain ⟨free, routed⟩ := Session.issue?_free issued
        refine .accepted command now rfl (held.trans free) ?_ ⟨session, found, by simp [routed]⟩ ?_
        · exact (becomes.trans pending).trans (if_pos chosen)
        · exact (marks_silent silent rfl).trans (by rw [granted]; rfl)
      · apply ignored
        · exact ((becomes.trans pending).trans (if_neg chosen)).trans held.symm
        · intro granted
          obtain ⟨-, _, route, same, issued⟩ := decides.mp granted
          rw [found] at same
          cases same
          exact chosen (by rw [issued]; rfl)
  · apply ignored
    · rw [after]
      simp [s, Share.react, own, Share.quiet, Share.downlink?, Registry.share,
        Registry.downlink?]
    · simp [s, decides, own]

theorem withdraws_cancel (r : Registry) (target : GatewayId) (cancelled : Token) :
    (Step.mk r (.cancel target cancelled)).withdraws gateway token = true ↔
      target = gateway ∧ cancelled = token ∧ (r.downlink? gateway token).isSome := by
  have reads : (Step.mk r (.cancel target cancelled)).withdraws gateway token = true ↔
      (r.cancel target cancelled).answer = .ok () ∧ target = gateway ∧ cancelled = token := by
    simp only [withdraws, answer, outcome, Registry.perform, Outcome.map]
    cases (r.cancel target cancelled).answer <;> simp
  rw [reads, Registry.answer_cancel]
  constructor
  · rintro ⟨answered, rfl, rfl⟩
    cases found : r.session? target with
    | none => simp [found] at answered
    | some session =>
      simp only [found] at answered
      split at answered
      · next held => exact ⟨rfl, rfl, by simpa [Registry.downlink?, found] using held⟩
      · cases answered
  · rintro ⟨rfl, rfl, held⟩
    cases found : r.session? target with
    | none => simp [Registry.downlink?, found] at held
    | some session =>
      have held : session.pending.contains cancelled = true := by
        simpa [Registry.downlink?, found] using held
      exact ⟨if_pos held, rfl, rfl⟩

theorem turn_cancel (r : Registry) (target : GatewayId) (cancelled : Token) :
    Turn ⟨r, .cancel target cancelled⟩ gateway token := by
  let s : Step := ⟨r, .cancel target cancelled⟩
  have silent : s.events = [] := rfl
  have decides := withdraws_cancel gateway token r target cancelled
  have becomes : s.after.downlink? gateway token =
      if target = gateway ∧ cancelled = token then none else r.downlink? gateway token := by
    rw [s.downlink?_after gateway token]
    by_cases own : target = gateway
    · cases found : r.session? gateway <;>
        simp [s, Share.react, Share.quiet, Share.downlink?, Registry.share, found, own,
          Registry.downlink?, Session.pending_release]
    · simp [s, Share.react, Share.quiet, Share.downlink?, Registry.share, own, Registry.downlink?]
  have ignored (same : s.after.downlink? gateway token = r.downlink? gateway token)
      (refused : ¬ s.withdraws gateway token = true) : Turn s gateway token := by
    refine .nothing same ?_ (by simp [s])
    rw [marks_silent silent rfl, Bool.eq_false_iff.mpr refused]
    rfl
  by_cases own : target = gateway ∧ cancelled = token
  · rw [if_pos own] at becomes
    cases held : r.downlink? gateway token with
    | none => exact ignored (becomes.trans held.symm) (by simp [s, decides, held])
    | some p =>
      have granted : s.withdraws gateway token = true :=
        decides.mpr ⟨own.1, own.2, by simp [held]⟩
      refine .withdrawn p held becomes ?_
      exact (marks_silent silent rfl).trans (by rw [granted]; rfl)
  · rw [if_neg own] at becomes
    exact ignored becomes fun granted => own ⟨(decides.mp granted).1, (decides.mp granted).2.1⟩

theorem sweep_of_found {r : Registry} {session : Session} (now : Instant)
    (found : r.session? gateway = some session) :
    (Step.mk r (.sweep now)).after.downlink? gateway token =
        (if session.isIdle r.policy now then none
          else (session.expire r.policy now).pending[token]?) ∧
      (Step.mk r (.sweep now)).marks gateway token =
        ⟨0, 0, (Registry.sweepEvents r.policy now gateway session).count
          (.downlinkFailed gateway token), 0, r.resends now gateway token⟩ := by
  let s : Step := ⟨r, .sweep now⟩
  have none_acked := Registry.count_acked_sweepEvents gateway token now r.policy session
  constructor
  · rw [s.downlink?_after gateway token]
    simp only [s, Share.react, Share.sweep, Registry.share, found]
    split <;> rfl
  · rw [s.marks_eq gateway token]
    simp only [s, Share.react, Share.sweep, Registry.share, found, none_acked]
    rfl

theorem turn_closing {r : Registry} {session : Session} (now : Instant)
    (found : r.session? gateway = some session) (idle : session.isIdle r.policy now = true) :
    Turn ⟨r, .sweep now⟩ gateway token := by
  let s : Step := ⟨r, .sweep now⟩
  obtain ⟨after, marked⟩ := sweep_of_found gateway token now found
  have held : r.downlink? gateway token = session.pending[token]? := by
    simp [Registry.downlink?, found]
  simp only [idle, if_true, Registry.sweepEvents, Registry.count_failed_closingEvents,
    Registry.resends, found] at after marked
  cases there : session.pending[token]? with
  | none =>
    refine .nothing (after.trans (held.trans there).symm) (marked.trans ?_) ?_
    · simp [there, Marks.none]
    · simp [held, there]
  | some p =>
    refine .closed p (held.trans there) ?_ after (marked.trans ?_)
    · rw [← List.count_pos_iff, s.count_events gateway _ rfl, List.count_pos_iff]
      simp [s, Share.react, Share.sweep, Registry.share, found, Registry.sweepEvents, idle,
        Registry.closingEvents]
    · simp [there]

theorem turn_expiring {r : Registry} {session : Session} (now : Instant)
    (found : r.session? gateway = some session) (awake : session.isIdle r.policy now = false) :
    Turn ⟨r, .sweep now⟩ gateway token := by
  obtain ⟨after, marked⟩ := sweep_of_found gateway token now found
  have held : r.downlink? gateway token = session.pending[token]? := by
    simp [Registry.downlink?, found]
  simp only [awake, Bool.false_eq_true, if_false, Registry.sweepEvents,
    Registry.count_failed_failures, Registry.resends, found, Session.pending_expire] at after marked
  cases there : session.pending[token]? with
  | none =>
    refine .nothing (after.trans ?_) (marked.trans ?_) ?_
    · simp [there, held]
    · simp [there, Marks.none]
    · simp [held, there]
  | some p =>
    rw [there] at after marked
    simp only [Option.bind_some, Option.any_some] at after marked
    rcases p.fate_cases r.policy session.route now with
      ⟨early, fate⟩ | ⟨due, spent, fate⟩ | ⟨route, due, routed, left, fate⟩
    · simp only [fate] at after marked
      refine .nothing (after.trans (held.trans there).symm) marked ?_
      intro q instant outstanding swept
      cases (held.trans there).symm.trans outstanding
      cases swept
      exact early
    · simp only [fate] at after marked
      exact .failed p now session rfl (held.trans there) due found spent after marked
    · simp only [fate] at after marked
      exact .retried p now session route rfl (held.trans there) due found routed left after marked

theorem turn_sweep (r : Registry) (now : Instant) : Turn ⟨r, .sweep now⟩ gateway token := by
  let s : Step := ⟨r, .sweep now⟩
  cases found : r.session? gateway with
  | none =>
    have free : r.downlink? gateway token = none := by simp [Registry.downlink?, found]
    have again : r.resends now gateway token = [] := by simp [Registry.resends, found]
    refine .nothing ((s.downlink?_after gateway token).trans ?_)
      ((s.marks_eq gateway token).trans ?_) ?_
    · simp [s, Share.react, Share.sweep, Share.quiet, Registry.share, found, Share.downlink?, free]
    · simp only [s, Share.react, Share.sweep, Share.quiet, Registry.share, found]
      exact congrArg (Marks.mk 0 0 0 0) again
    · simp [free]
  | some session =>
    cases idle : session.isIdle r.policy now with
    | true => exact turn_closing gateway token now found idle
    | false => exact turn_expiring gateway token now found idle

theorem turn_shutdown (r : Registry) : Turn ⟨r, .shutdown⟩ gateway token := by
  let s : Step := ⟨r, .shutdown⟩
  have after := s.downlink?_after gateway token
  have marked : s.marks gateway token =
      let events := ((r.share gateway).react r.policy gateway .shutdown).events
      ⟨0, events.count (.downlinkAcked gateway token),
        events.count (.downlinkFailed gateway token), 0, []⟩ := s.marks_eq gateway token
  cases found : r.session? gateway with
  | none =>
    have free : r.downlink? gateway token = none := by simp [Registry.downlink?, found]
    refine .nothing (after.trans free.symm) (marked.trans ?_) (by simp)
    simp [Share.react, Registry.share, found, Marks.none]
  | some session =>
    have held : r.downlink? gateway token = session.pending[token]? := by
      simp [Registry.downlink?, found]
    simp only [s, Share.react, Registry.share, found, Option.map_some, Option.getD_some,
      Registry.count_acked_closingEvents, Registry.count_failed_closingEvents] at marked
    cases there : session.pending[token]? with
    | none =>
      refine .nothing (after.trans (held.trans there).symm) (marked.trans ?_) (by simp)
      simp [there, Marks.none]
    | some p =>
      refine .closed p (held.trans there) ?_ after (marked.trans ?_)
      · rw [← List.count_pos_iff, s.count_events gateway _ rfl, List.count_pos_iff]
        simp [s, Share.react, Registry.share, found, Registry.closingEvents]
      · simp [there]

/-- A step of any run does one of these to a downlink. -/
theorem turn : Turn s gateway token := by
  obtain ⟨r, action⟩ := s
  cases action with
  | receive datagram source now =>
    cases decoded : Packet.decode datagram with
    | error fault =>
      apply turn_of_hearing gateway token (r.share gateway).quiet
      · simp [Share.react, Action.heard?, decoded]
      · rfl
      · exact .inl ⟨rfl, rfl⟩
      · rfl
      · rfl
      · rfl
      · simp
    | ok p =>
      have heard := (r.share gateway).hear_downlink gateway p source now token
      apply turn_of_hearing gateway token ((r.share gateway).hear gateway p source now)
      · simp [Share.react, Action.heard?, decoded]
      · exact heard.1
      · exact heard.2
      · rfl
      · rfl
      · rfl
      · simp
  | handle p source now =>
    have heard := (r.share gateway).hear_downlink gateway p source now token
    apply turn_of_hearing gateway token ((r.share gateway).hear gateway p source now)
    · rfl
    · exact heard.1
    · exact heard.2
    · rfl
    · rfl
    · rfl
    · simp
  | send target command now => exact turn_send gateway token r target command now
  | cancel target cancelled => exact turn_cancel gateway token r target cancelled
  | sweep now => exact turn_sweep gateway token r now
  | shutdown => exact turn_shutdown gateway token r

end Step

end GatewayLink
