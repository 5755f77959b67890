import GatewayLink.Proofs.Registry.Allocation

/-! Submissions and withdrawals, and what they leave when they are refused.
A command is refused for want of a session, of a route or of a token, in this order, and then nothing
changes. It is also refused if its time is too fine to be written; by then its token has been taken off the
counter, but it is not outstanding. -/

namespace GatewayLink

def Moment.IsMicro (m : Moment) : Prop := m.nanos % 1000 = 0

theorem Packet.check_pullResp (token : Token) (command : DownlinkCommand) :
    (Packet.pullResp token command).check = command.check := rfl

theorem DownlinkCommand.check_cases (c : DownlinkCommand) :
    (c.check = .ok () ∧ ∀ m, c.time? = some m → m.IsMicro) ∨
      ∃ m, c.time? = some m ∧ ¬ m.IsMicro ∧ c.check = .error (.packet (.frameTime m)) := by
  rw [check]
  cases c.time? with
  | none => exact .inl ⟨rfl, fun m timed => by cases timed⟩
  | some m =>
    dsimp only
    cases fits : m.fitsCompact with
    | true =>
      refine .inl ⟨rfl, fun other same => ?_⟩
      cases same
      exact beq_iff_eq.mp fits
    | false => exact .inr ⟨m, rfl, beq_eq_false_iff_ne.mp fits, rfl⟩

namespace Registry

/-- Everything a submission can come to. -/
inductive Submission (r : Registry) (gateway : GatewayId) (command : DownlinkCommand)
    (now : Instant) : Outcome (Except SessionFault Outbound) → Prop where
  | unknown (gone : r.session? gateway = none) :
    Submission r gateway command now ⟨.error (.unknownGateway gateway), r, []⟩
  | unrouted (s : Session) (found : r.session? gateway = some s) (routed : s.route = none) :
    Submission r gateway command now ⟨.error (.noRoute gateway), r, []⟩
  | exhausted (s : Session) (route : Address) (found : r.session? gateway = some s)
      (routed : s.route = some route) (full : ∀ token : Token, s.pending.contains token = true) :
    Submission r gateway command now ⟨.error (.tokensExhausted gateway), r, []⟩
  | unwritable (s : Session) (route : Address) (token : Token) (m : Moment)
      (found : r.session? gateway = some s) (routed : s.route = some route)
      (next : s.NextFree token) (timed : command.time? = some m) (fine : ¬ m.IsMicro) :
    Submission r gateway command now ⟨.error (.packet (.packet (.frameTime m))),
      r.setSession gateway { s with nextToken := token.number + 1 }, []⟩
  | accepted (s : Session) (route : Address) (token : Token) (found : r.session? gateway = some s)
      (routed : s.route = some route) (next : s.NextFree token)
      (timed : ∀ m, command.time? = some m → m.IsMicro) :
    Submission r gateway command now ⟨.ok ⟨route, .pullResp token command⟩,
      r.setSession gateway { s with
        nextToken := token.number + 1
        pending := s.pending.insert token
          ⟨.pullResp token command, now + r.policy.ackTimeout.toNat, 0⟩ },
      [.sent gateway route token]⟩

theorem submission (r : Registry) (gateway : GatewayId) (command : DownlinkCommand)
    (now : Instant) : r.Submission gateway command now (r.send gateway command now) := by
  cases found : r.session? gateway with
  | none =>
    rw [send_unknown now command found]
    exact .unknown found
  | some s =>
    rw [send, found]
    dsimp only
    cases routed : s.route with
    | none => exact .unrouted s found routed
    | some route =>
      rw [s.allocate?_eq_draw]
      rcases s.draw_cases with ⟨token, next, drawn⟩ | ⟨full, drawn⟩
      · rw [drawn]
        dsimp only [Option.map_some]
        rw [Packet.check_pullResp]
        rcases command.check_cases with ⟨written, timed⟩ | ⟨m, timed, fine, refused⟩
        · rw [written]
          exact .accepted s route token found routed next timed
        · rw [refused]
          exact .unwritable s route token m found routed next timed fine
      · rw [drawn]
        exact .exhausted s route found routed full

theorem isActive_of_found {r : Registry} {gateway : GatewayId} {s : Session}
    (found : r.session? gateway = some s) : r.isActive gateway = true := by
  rw [isActive_eq, found]
  rfl

theorem isOutstanding_of_found {r : Registry} {gateway : GatewayId} {s : Session}
    (found : r.session? gateway = some s) (token : Token) :
    r.isOutstanding gateway token = s.pending.contains token := by
  rw [isOutstanding, downlink?, found, Option.bind_some,
    Std.ExtTreeMap.contains_eq_isSome_getElem?]

/-- What a submission answers and leaves in a registry where `steps` have led: every refusal has one cause,
which counts only if those before it do not apply. -/
structure Submits (r : Registry) (steps : List Step) (gateway : GatewayId)
    (command : DownlinkCommand) (now : Instant)
    (o : Outcome (Except SessionFault Outbound)) : Prop where
  unknown : o.answer = .error (.unknownGateway gateway) ↔ r.isActive gateway = false
  unrouted : o.answer = .error (.noRoute gateway) ↔
    r.isActive gateway = true ∧ ∀ address, ¬ Latest gateway (Step.keepsAlive gateway) address steps
  exhausted : o.answer = .error (.tokensExhausted gateway) ↔
    (∃ address, Latest gateway (Step.keepsAlive gateway) address steps) ∧
      ∀ token, r.isOutstanding gateway token = true
  unwritable : (∃ cause, o.answer = .error (.packet cause)) ↔
    (∃ address, Latest gateway (Step.keepsAlive gateway) address steps) ∧
      (∃ token, r.isOutstanding gateway token = false) ∧
      ∃ m, command.time? = some m ∧ ¬ m.IsMicro
  accepted : (∃ out, o.answer = .ok out) ↔
    (∃ address, Latest gateway (Step.keepsAlive gateway) address steps) ∧
      (∃ token, r.isOutstanding gateway token = false) ∧
      ∀ m, command.time? = some m → m.IsMicro
  /-- A refusal for want of something changes nothing. -/
  intact : ∀ fault, o.answer = .error fault → (∀ cause, fault ≠ .packet cause) → o.registry = r
  /-- A search that finds no token brings the counter back to where it was. -/
  around : o.answer = .error (.tokensExhausted gateway) →
    ∃ s, r.session? gateway = some s ∧ s.draw = (none, s)
  /-- A command that cannot be written costs the next free number, and only that. -/
  advanced : ∀ cause, o.answer = .error (.packet cause) →
    (∃ m, command.time? = some m ∧ cause = .packet (.frameTime m)) ∧
      ∃ s token, r.session? gateway = some s ∧ s.NextFree token ∧
        o.registry = r.setSession gateway { s with nextToken := token.number + 1 }
  /-- A command is sent where the last keep-alive came from, and is outstanding under the next free token. -/
  entered : ∀ out, o.answer = .ok out →
    Latest gateway (Step.keepsAlive gateway) out.address steps ∧
      ∃ s token, r.session? gateway = some s ∧ s.NextFree token ∧
        out.packet = .pullResp token command ∧
        o.registry = r.setSession gateway { s with
          nextToken := token.number + 1
          pending := s.pending.insert token ⟨out.packet, now + r.policy.ackTimeout.toNat, 0⟩ }

/-- What a withdrawal answers and leaves. -/
structure Withdraws (r : Registry) (gateway : GatewayId) (token : Token)
    (o : Outcome (Except SessionFault Unit)) : Prop where
  unknown : o.answer = .error (.unknownGateway gateway) ↔ r.isActive gateway = false
  notOutstanding : o.answer = .error (.notOutstanding gateway token) ↔
    r.isActive gateway = true ∧ r.isOutstanding gateway token = false
  withdrawn : o.answer = .ok () ↔ r.isOutstanding gateway token = true
  intact : ∀ fault, o.answer = .error fault → o.registry = r
  removed : o.answer = .ok () → ∃ s, r.session? gateway = some s ∧
    o.registry = r.setSession gateway { s with pending := s.pending.erase token }

theorem Submission.submits {r : Registry} {steps : List Step} {gateway : GatewayId}
    {command : DownlinkCommand} {now : Instant} {o : Outcome (Except SessionFault Outbound)}
    (told : ∀ address, (r.session? gateway).bind Session.route = some address ↔
      Latest gateway (Step.keepsAlive gateway) address steps)
    (outcome : r.Submission gateway command now o) : r.Submits steps gateway command now o := by
  have routedTo {s : Session} {route : Address} (found : r.session? gateway = some s)
      (routed : s.route = some route) :
      Latest gateway (Step.keepsAlive gateway) route steps := by
    rw [← told, found, Option.bind_some, routed]
  have heard {s : Session} {route : Address} (found : r.session? gateway = some s)
      (routed : s.route = some route) :
      ∃ address, Latest gateway (Step.keepsAlive gateway) address steps :=
    ⟨route, routedTo found routed⟩
  have free {s : Session} {token : Token} (found : r.session? gateway = some s)
      (next : s.NextFree token) : ∃ token, r.isOutstanding gateway token = false :=
    ⟨token, (isOutstanding_of_found found token).trans next.free⟩
  cases outcome with
  | unknown gone =>
    have inactive : r.isActive gateway = false := by rw [isActive_eq, gone]; rfl
    have never : ∀ address, ¬ Latest gateway (Step.keepsAlive gateway) address steps := by
      simp [← told, gone]
    constructor <;> simp [inactive, never]
  | unrouted s found routed =>
    have never : ∀ address, ¬ Latest gateway (Step.keepsAlive gateway) address steps := by
      simp [← told, found, routed]
    constructor <;> simp [isActive_of_found found, never]
  | exhausted s route found routed full =>
    have latest := heard found routed
    have taken : ∀ token, r.isOutstanding gateway token = true :=
      fun token => (isOutstanding_of_found found token).trans (full token)
    have around : s.draw = (none, s) := by
      rcases s.draw_cases with ⟨token, next, -⟩ | ⟨-, drawn⟩
      · exact absurd (full token) (Bool.eq_false_iff.mp next.free)
      · exact drawn
    constructor <;> simp [isActive_of_found found, latest, taken, found, around]
  | unwritable s route token m found routed next timed fine =>
    have latest := heard found routed
    constructor
    case advanced =>
      rintro _ ⟨⟩
      exact ⟨⟨m, timed, rfl⟩, s, token, found, next, rfl⟩
    all_goals simp [isActive_of_found found, latest, free found next, timed, fine]
  | accepted s route token found routed next timed =>
    have latest := heard found routed
    constructor
    case accepted => exact iff_of_true ⟨_, rfl⟩ ⟨latest, free found next, timed⟩
    case unwritable => simpa [latest, free found next] using timed
    case entered =>
      rintro _ ⟨⟩
      exact ⟨routedTo found routed, s, token, found, next, rfl, rfl⟩
    all_goals simp [isActive_of_found found, latest, free found next]

theorem cancel_withdraws (r : Registry) (gateway : GatewayId) (token : Token) :
    r.Withdraws gateway token (r.cancel gateway token) := by
  cases found : r.session? gateway with
  | none =>
    have inactive : r.isActive gateway = false := by rw [isActive_eq, found]; rfl
    have absent : r.isOutstanding gateway token = false := by
      rw [isOutstanding, downlink?, found]
      rfl
    rw [cancel, found]
    constructor <;> simp [inactive, absent]
  | some s =>
    have active := isActive_of_found found
    rw [cancel, found]
    dsimp only
    rw [← isOutstanding_of_found found token]
    cases held : r.isOutstanding gateway token with
    | true => constructor <;> simp [active, held, found, Session.release]
    | false => constructor <;> simp [active, held]

/-- A refused submission leaves the registry as it was, except that a command that cannot be written has moved
the counter of its gateway past the next free token. An accepted one adds its downlink and nothing else. A
withdrawal removes its downlink, or is refused and changes nothing. -/
theorem downlink_calls_settle (policy : Policy) (actions : List Action) (gateway : GatewayId)
    (command : DownlinkCommand) (token : Token) (now : Instant) :
    let r := ((empty policy).run actions).1
    r.Submits ((empty policy).steps actions) gateway command now (r.send gateway command now) ∧
      r.Withdraws gateway token (r.cancel gateway token) :=
  ⟨(submission _ gateway command now).submits (route_eq_some_iff policy actions gateway),
    cancel_withdraws _ gateway token⟩

end Registry

end GatewayLink
