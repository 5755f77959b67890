import GatewayLink.Proofs.Registry.Ledger

/-! The retry discipline of downlinks.
A downlink was sent once when it was accepted, and then once by each sweep that reached the deadline in
force. With all retries used, the next such sweep fails it, and from then on nothing is said of it until
its token is issued again. That a downlink has a route to be sent along is an invariant of its session, so
no downlink fails for want of one. -/

namespace GatewayLink

def Session.Routed (s : Session) : Prop := s.route = none → ∀ token : Token, s.pending[token]? = none

/-- The instants at which the downlink under a token was transmitted, after one more step, latest first.
An acceptance starts anew. -/
def Step.transmitted (gateway : GatewayId) (token : Token) (sent : List Instant) (s : Step) :
    List Instant :=
  match s.action with
  | .send _ _ now => if s.accepts gateway token then [now] else sent
  | .sweep now => if s.resends gateway token = [] then sent else now :: sent
  | _ => sent

/-- The step leaves a downlink to the sweeps: nothing accepts, acknowledges, withdraws or closes it. -/
structure Step.Spares (s : Step) (gateway : GatewayId) (token : Token) : Prop where
  accepts : s.accepts gateway token = false
  acked : (s.marks gateway token).acked = 0
  withdraws : s.withdraws gateway token = false
  kept : .gatewayDisconnected gateway ∉ s.events

instance (s : Step) (gateway : GatewayId) (token : Token) : Decidable (s.Spares gateway token) :=
  decidable_of_iff (s.accepts gateway token = false ∧ (s.marks gateway token).acked = 0 ∧
      s.withdraws gateway token = false ∧ .gatewayDisconnected gateway ∉ s.events)
    ⟨fun h => ⟨h.1, h.2.1, h.2.2.1, h.2.2.2⟩, fun h => ⟨h.accepts, h.acked, h.withdraws, h.kept⟩⟩

def Action.sweeps (actions : List Action) : List Instant :=
  actions.filterMap fun action =>
    match action with
    | .sweep now => some now
    | _ => none

/-- The sweeps that reach the deadline in force, which each of them moves on. -/
def Policy.due (policy : Policy) (deadline : Instant) : List Instant → List Instant
  | [] => []
  | now :: rest =>
    if deadline ≤ now then now :: policy.due (now + policy.ackTimeout.toNat) rest
    else policy.due deadline rest

namespace Pending

/-- What a downlink has become after some sweeps: each that was due took a retry and set the deadline. -/
def swept (policy : Policy) (sweeps : List Instant) (p : Pending) : Option Pending :=
  let due := policy.due p.deadline sweeps
  if p.retries + due.length ≤ policy.maxRetries.toNat then
    some { p with
      retries := p.retries + due.length
      deadline := (due.getLast?.map (· + policy.ackTimeout.toNat)).getD p.deadline }
  else none

/-- The books of a downlink tell its transmissions. -/
structure Booked (policy : Policy) (token : Token) (sent : List Instant) (p : Pending) : Prop where
  packet : ∃ command, p.packet = .pullResp token command
  bounded : p.retries ≤ policy.maxRetries.toNat
  transmissions : ∃ latest earlier, sent = latest :: earlier ∧ p.retries = earlier.length ∧
    p.deadline = latest + policy.ackTimeout.toNat

/-- How a step treats what has become of a downlink after some sweeps. -/
structure Course (policy : Policy) (gateway : GatewayId) (token : Token) (p : Pending)
    (sweeps : List Instant) (s : Step) : Prop where
  held : s.before.downlink? gateway token = p.swept policy sweeps
  early : ∀ q now, p.swept policy sweeps = some q → s.action = .sweep now → now < q.deadline →
    s.marks gateway token = .none ∧ s.after.downlink? gateway token = some q
  again : ∀ q now, p.swept policy sweeps = some q → s.action = .sweep now → q.deadline ≤ now →
    q.retries < policy.maxRetries.toNat →
    s.after.downlink? gateway token =
        some { q with retries := q.retries + 1, deadline := now + policy.ackTimeout.toNat } ∧
      ∃ session route, s.before.session? gateway = some session ∧ session.route = some route ∧
        s.marks gateway token = ⟨0, 0, 0, 0, [⟨route, p.packet⟩]⟩
  spent : ∀ q now, p.swept policy sweeps = some q → s.action = .sweep now → q.deadline ≤ now →
    q.retries = policy.maxRetries.toNat →
    s.marks gateway token = ⟨0, 0, 1, 0, []⟩ ∧ s.after.downlink? gateway token = none
  gone : p.swept policy sweeps = none → s.marks gateway token = .none
  other : (∀ now, s.action ≠ .sweep now) → s.marks gateway token = .none

variable {policy : Policy} {sweeps : List Instant} {now : Instant} {p : Pending}

theorem swept_nil (bounded : p.retries ≤ policy.maxRetries.toNat) :
    p.swept policy [] = some p := by
  simp [swept, Policy.due, bounded]

theorem swept_early (early : now < p.deadline) :
    p.swept policy (now :: sweeps) = p.swept policy sweeps := by
  simp only [swept, Policy.due, if_neg (Nat.not_le_of_lt early)]

theorem swept_due (due : p.deadline ≤ now) :
    p.swept policy (now :: sweeps) =
      swept policy sweeps
        { p with retries := p.retries + 1, deadline := now + policy.ackTimeout.toNat } := by
  have count : p.retries + ((policy.due (now + policy.ackTimeout.toNat) sweeps).length + 1) =
      p.retries + 1 + (policy.due (now + policy.ackTimeout.toNat) sweeps).length := by omega
  simp only [swept, Policy.due, if_pos due, List.length_cons, List.getLast?_cons]
  rw [count]
  cases (policy.due (now + policy.ackTimeout.toNat) sweeps).getLast? <;> rfl

theorem swept_spent (due : p.deadline ≤ now) (spent : policy.maxRetries.toNat ≤ p.retries) :
    p.swept policy (now :: sweeps) = none := by
  rw [swept_due due, swept, if_neg]
  dsimp only
  omega

theorem packet_swept {q : Pending} (became : p.swept policy sweeps = some q) :
    q.packet = p.packet := by
  simp only [swept] at became
  split at became
  · cases became
    rfl
  · cases became

end Pending

namespace Share

def Routed (sh : Share) : Prop := ∀ s, sh.session = some s → s.Routed

theorem routed_sessionAt {sh : Share} (routed : sh.Routed) (now : Instant) :
    (sh.sessionAt now).Routed := by
  cases found : sh.session with
  | none =>
    intro _ token
    simp [sessionAt, found, Session.start]
  | some s =>
    rw [sessionAt, found]
    exact routed s found

theorem Routed.change {policy : Policy} {gateway : GatewayId} {action : Action} {sh next : Share}
    (routed : sh.Routed) (change : Change policy gateway action sh next) : next.Routed := by
  intro s found unrouted token
  cases change with
  | pushed p source now _ _ _ =>
    cases found
    exact routed_sessionAt routed now unrouted token
  | pulled p source now _ _ _ =>
    cases found
    cases unrouted
  | yielded _ _ _ _ => exact routed s found unrouted token
  | acknowledged p source now before _ _ _ there =>
    cases found
    rw [Session.route_acknowledged] at unrouted
    rw [Session.pending_acknowledged, routed before there unrouted token, ite_self]
  | submitted before command now _ there =>
    cases found
    rw [Session.route_submitted] at unrouted
    rw [Session.pending_submitted, routed before there unrouted token, if_neg]
    simp [Session.issue?, unrouted]
  | released before cancelled _ there =>
    cases found
    rw [Session.pending_release, routed before there unrouted token, ite_self]
  | expired before now _ there _ =>
    cases found
    rw [Session.pending_expire, routed before there unrouted token, Option.bind_none]
  | closed _ => cases found
  | kept _ => exact routed s found unrouted token

end Share

namespace Step

variable {s : Step} {gateway : GatewayId} {token : Token}

theorem transmitted_quiet {sent : List Instant} (accepts : s.accepts gateway token = false)
    (resends : s.resends gateway token = []) : s.transmitted gateway token sent = sent := by
  unfold transmitted
  split
  · rw [accepts, if_neg Bool.false_ne_true]
  · rw [if_pos resends]
  · rfl

theorem accepts_of_marks {m : Marks} (marks : s.marks gateway token = m) :
    (s.accepts gateway token).toNat = m.accepted := congrArg Marks.accepted marks

theorem resends_of_marks {m : Marks} (marks : s.marks gateway token = m) :
    s.resends gateway token = m.resent := congrArg Marks.resent marks

theorem booked {sent : List Instant} {p : Pending}
    (books : ∀ p, s.before.downlink? gateway token = some p →
      p.Booked s.before.policy token sent)
    (outstanding : s.after.downlink? gateway token = some p) :
    p.Booked s.before.policy token (s.transmitted gateway token sent) := by
  cases s.turn gateway token with
  | nothing same marks _ =>
    have accepts : s.accepts gateway token = false := by
      simpa [Marks.none] using accepts_of_marks marks
    rw [transmitted_quiet accepts (resends_of_marks marks)]
    exact books p (same.symm.trans outstanding)
  | accepted command now action _ next _ marks =>
    have accepts : s.accepts gateway token = true := by simpa using accepts_of_marks marks
    cases next.symm.trans outstanding
    have sent_now : s.transmitted gateway token sent = [now] := by
      simp [transmitted, action, accepts]
    rw [sent_now]
    exact ⟨⟨command, rfl⟩, Nat.zero_le _, now, [], rfl, rfl, rfl⟩
  | acked _ _ gone _ => cases gone.symm.trans outstanding
  | withdrawn _ _ gone _ => cases gone.symm.trans outstanding
  | retried before now session route action held _ _ _ left next marks =>
    have again : s.transmitted gateway token sent = now :: sent := by
      simp [transmitted, action, resends_of_marks marks]
    obtain ⟨packet, -, latest, earlier, rfl, retries, -⟩ := books before held
    cases next.symm.trans outstanding
    rw [again]
    refine ⟨packet, left, now, latest :: earlier, rfl, ?_, rfl⟩
    rw [List.length_cons, retries]
  | failed _ _ _ _ _ _ _ _ gone _ => cases gone.symm.trans outstanding
  | closed _ _ _ gone _ => cases gone.symm.trans outstanding

theorem silent (free : s.before.downlink? gateway token = none)
    (refuses : s.accepts gateway token = false) :
    s.marks gateway token = .none ∧ s.after.downlink? gateway token = none := by
  cases s.turn gateway token with
  | nothing same marks _ => exact ⟨marks, same.trans free⟩
  | accepted _ _ _ _ _ _ marks =>
    have accepts := accepts_of_marks marks
    rw [refuses] at accepts
    cases accepts
  | acked _ held _ _ => cases free.symm.trans held
  | withdrawn _ held _ _ => cases free.symm.trans held
  | retried _ _ _ _ _ held _ _ _ _ _ _ => cases free.symm.trans held
  | failed _ _ _ _ held _ _ _ _ _ => cases free.symm.trans held
  | closed _ held _ _ _ => cases free.symm.trans held

/-- A step that spares a downlink does nothing to it, sends it again, or fails it with no retries left. -/
theorem spared (routed : ∀ session, s.before.session? gateway = some session → session.Routed)
    (spares : s.Spares gateway token) :
    (s.after.downlink? gateway token = s.before.downlink? gateway token ∧
      s.marks gateway token = .none ∧
      ∀ p now, s.before.downlink? gateway token = some p → s.action = .sweep now →
        now < p.deadline) ∨
    ∃ p now, s.action = .sweep now ∧ s.before.downlink? gateway token = some p ∧
      p.deadline ≤ now ∧
      ((p.retries < s.before.policy.maxRetries.toNat ∧
          s.after.downlink? gateway token =
            some { p with retries := p.retries + 1, deadline := now + s.before.policy.ackTimeout.toNat } ∧
          ∃ session route, s.before.session? gateway = some session ∧
            session.route = some route ∧
            s.marks gateway token = ⟨0, 0, 0, 0, [⟨route, p.packet⟩]⟩) ∨
        (s.before.policy.maxRetries.toNat ≤ p.retries ∧ s.after.downlink? gateway token = none ∧
          s.marks gateway token = ⟨0, 0, 1, 0, []⟩)) := by
  cases s.turn gateway token with
  | nothing same marks early => exact .inl ⟨same, marks, early⟩
  | accepted _ _ _ _ _ _ marks =>
    have accepts := accepts_of_marks marks
    rw [spares.accepts] at accepts
    cases accepts
  | acked _ _ _ marks =>
    have acked := spares.acked
    rw [marks] at acked
    cases acked
  | withdrawn _ _ _ marks =>
    have withdraws : (s.withdraws gateway token).toNat = 1 := congrArg Marks.withdrawn marks
    rw [spares.withdraws] at withdraws
    cases withdraws
  | retried p now session route action held due found routed left next marks =>
    exact .inr ⟨p, now, action, held, due, .inl ⟨left, next, session, route, found, routed, marks⟩⟩
  | failed p now session action held due found spent gone marks =>
    refine .inr ⟨p, now, action, held, due, .inr ⟨?_, gone, marks⟩⟩
    refine spent.resolve_left fun unrouted => ?_
    have empty := routed session found unrouted token
    rw [Registry.downlink?, found, Option.bind_some, empty] at held
    cases held
  | closed _ _ reported _ _ => exact absurd reported spares.kept

theorem course {policy : Policy} {p : Pending} {sweeps : List Instant}
    (settings : s.before.policy = policy)
    (routed : ∀ session, s.before.session? gateway = some session → session.Routed)
    (spares : s.Spares gateway token)
    (held : s.before.downlink? gateway token = p.swept policy sweeps) :
    p.Course policy gateway token sweeps s := by
  subst settings
  rcases spared routed spares with ⟨same, marks, early⟩ |
    ⟨q, now, action, outstanding, due, fate⟩
  · refine ⟨held, ?_, ?_, ?_, fun _ => marks, fun _ => marks⟩
    · intro q now became _ _
      exact ⟨marks, same.trans (held.trans became)⟩
    · intro q now became swept due _
      exact absurd due (Nat.not_le_of_lt (early q now (held.trans became) swept))
    · intro q now became swept due _
      exact absurd due (Nat.not_le_of_lt (early q now (held.trans became) swept))
  · have became : p.swept s.before.policy sweeps = some q := held.symm.trans outstanding
    have packet := Pending.packet_swept became
    refine ⟨held, ?_, ?_, ?_, ?_, fun other => absurd action (other now)⟩
    · intro q' now' became' action' early
      cases became.symm.trans became'
      cases action.symm.trans action'
      exact absurd due (Nat.not_le_of_lt early)
    · intro q' now' became' action' _ left
      cases became.symm.trans became'
      cases action.symm.trans action'
      rcases fate with ⟨_, next, session, route, found, routed, marks⟩ | ⟨spent, _, _⟩
      · exact ⟨next, session, route, found, routed, packet ▸ marks⟩
      · exact absurd left (Nat.not_lt_of_le spent)
    · intro q' now' became' action' _ spent
      cases became.symm.trans became'
      cases action.symm.trans action'
      rcases fate with ⟨left, _⟩ | ⟨_, gone, marks⟩
      · exact absurd left (by omega)
      · exact ⟨marks, gone⟩
    · intro gone
      cases became.symm.trans gone

end Step

namespace Registry

variable {gateway : GatewayId} {token : Token}

def Routed (r : Registry) : Prop := ∀ gateway s, r.session? gateway = some s → s.Routed

def transmissions (gateway : GatewayId) (token : Token) (steps : List Step) : List Instant :=
  steps.foldl (fun sent s => s.transmitted gateway token sent) []

theorem routed_perform {r : Registry} (routed : r.Routed) (action : Action) :
    (r.perform action).registry.Routed := by
  intro gateway
  have here : (r.share gateway).Routed := routed gateway
  exact here.change (r.change_perform gateway action)

theorem routed_run {r : Registry} (routed : r.Routed) (actions : List Action) :
    (r.run actions).1.Routed := by
  induction actions generalizing r with
  | nil => exact routed
  | cons action rest ih =>
    rw [run_cons]
    exact ih (routed_perform routed action)

theorem booked_run {r : Registry} {sent : List Instant} {p : Pending} (actions : List Action)
    (books : ∀ p, r.downlink? gateway token = some p → p.Booked r.policy token sent)
    (outstanding : (r.run actions).1.downlink? gateway token = some p) :
    p.Booked r.policy token
      ((r.steps actions).foldl (fun sent s => s.transmitted gateway token sent) sent) := by
  -- from the front of the run, so what was transmitted before it has to be a variable
  induction actions generalizing r sent with
  | nil => exact books p outstanding
  | cons action rest ih =>
    rw [← policy_perform r action]
    refine ih (fun q held => ?_) outstanding
    rw [policy_perform]
    exact Step.booked (s := ⟨r, action⟩) books held

theorem silent_run {r : Registry} {actions : List Action}
    (free : r.downlink? gateway token = none)
    (refuses : ∀ s ∈ r.steps actions, s.accepts gateway token = false) :
    (∀ s ∈ r.steps actions, s.marks gateway token = .none) ∧
      (r.run actions).1.downlink? gateway token = none := by
  induction actions generalizing r with
  | nil => exact ⟨List.forall_mem_nil _, free⟩
  | cons action rest ih =>
    have first := Step.silent (s := ⟨r, action⟩) free (refuses _ List.mem_cons_self)
    have later := ih first.2 fun s member => refuses s (List.mem_cons_of_mem _ member)
    refine ⟨fun s member => ?_, later.2⟩
    rcases List.mem_cons.mp member with rfl | member
    · exact first.1
    · exact later.1 s member

theorem sweeps_cons_other {action : Action} (rest : List Action)
    (other : ∀ now, action ≠ .sweep now) :
    Action.sweeps (action :: rest) = Action.sweeps rest := by
  cases action with
  | sweep now => exact absurd rfl (other now)
  | _ => rfl

theorem downlink?_run {r : Registry} {p : Pending} {actions : List Action} (routed : r.Routed)
    (held : r.downlink? gateway token = some p)
    (bounded : p.retries ≤ r.policy.maxRetries.toNat)
    (spares : ∀ s ∈ r.steps actions, s.Spares gateway token) :
    (r.run actions).1.downlink? gateway token = p.swept r.policy (Action.sweeps actions) := by
  induction actions generalizing r p with
  | nil => rw [Action.sweeps, List.filterMap_nil, Pending.swept_nil bounded]; exact held
  | cons action rest ih =>
    have next_routed := routed_perform routed action
    have policy := policy_perform r action
    have later := fun s member => spares s (List.mem_cons_of_mem _ member)
    rw [run_registry_cons]
    -- the step leaves the downlink alone, or takes one of its retries, or there is none left to take
    rcases Step.spared (s := ⟨r, action⟩) (routed gateway) (spares ⟨r, action⟩ List.mem_cons_self) with
      ⟨same, _, early⟩ | ⟨q, now, rfl, outstanding, due, fate⟩
    · have rest_swept := ih next_routed (same.trans held) (policy.symm ▸ bounded) later
      rw [policy] at rest_swept
      by_cases swept : ∃ now, action = .sweep now
      · obtain ⟨now, rfl⟩ := swept
        exact rest_swept.trans (Pending.swept_early (early p now held rfl)).symm
      · rw [sweeps_cons_other rest fun now same => swept ⟨now, same⟩]
        exact rest_swept
    · cases held.symm.trans outstanding
      rcases fate with ⟨left, next, _⟩ | ⟨spent, gone, _⟩
      · have rest_swept := ih next_routed next (policy.symm ▸ left) later
        rw [policy] at rest_swept
        exact rest_swept.trans (Pending.swept_due due).symm
      · have nothing := silent_run gone fun s member => (later s member).accepts
        exact nothing.2.trans (Pending.swept_spent due spent).symm

theorem routed_empty (policy : Policy) : (empty policy).Routed := by
  intro gateway s found
  rw [session?_empty] at found
  cases found

/-- In every state, the books of a downlink tell its transmissions, and its session has a route. While it
is left to the sweeps, those before the deadline in force do nothing to it, those that reach it send it
again while retries are left, and the next one fails it. Then nothing is said of it until the token is
issued again. What a sweep sends are the packets of the single downlinks. -/
theorem retry_discipline (policy : Policy) (gateway : GatewayId) (token : Token)
    (actions : List Action) :
    let r := ((empty policy).run actions).1
    (∀ p, r.downlink? gateway token = some p →
      p.Booked policy token (transmissions gateway token ((empty policy).steps actions)) ∧
      (∃ s route, r.session? gateway = some s ∧ s.route = some route) ∧
      ∀ later, (∀ s ∈ r.steps later, s.Spares gateway token) →
        ∀ front action back, later = front ++ action :: back →
          p.Course policy gateway token (Action.sweeps front) ⟨(r.run front).1, action⟩) ∧
    (r.downlink? gateway token = none →
      ∀ later, (∀ s ∈ r.steps later, s.accepts gateway token = false) →
        ∀ s ∈ r.steps later, s.marks gateway token = .none) ∧
    ∀ now, (r.sweep now).answer.retransmissions =
      r.sessions.toList.flatMap fun (g, s) =>
        s.outstanding.flatMap fun t => (Step.mk r (.sweep now)).resends g t := by
  intro r
  have settings : r.policy = policy := policy_run (empty policy) actions
  have routed : r.Routed := routed_run (routed_empty policy) actions
  refine ⟨fun p held => ?_, fun free later refuses => (silent_run free refuses).1,
    fun now => r.retransmissions_eq_resends now⟩
  have books : p.Booked policy token
      (transmissions gateway token ((empty policy).steps actions)) := by
    refine booked_run (r := empty policy) actions (fun q outstanding => ?_) held
    simp [downlink?] at outstanding
  refine ⟨books, ?_, fun later spares front action back split => ?_⟩
  · obtain ⟨s, found, outstanding⟩ := Option.bind_eq_some_iff.mp held
    cases there : s.route with
    | none =>
      rw [routed gateway s found there token] at outstanding
      cases outstanding
    | some route => exact ⟨s, route, found, there⟩
  · have steps : r.steps later =
        r.steps front ++ ⟨(r.run front).1, action⟩ :: ((r.run front).1.perform action).registry.steps
          back := by
      rw [split, steps_append]
      rfl
    rw [steps] at spares
    have along : (r.run front).1.downlink? gateway token =
        p.swept r.policy (Action.sweeps front) :=
      downlink?_run routed held (settings.symm ▸ books.bounded) fun s member =>
        spares s (List.mem_append_left _ member)
    have here := spares _ (List.mem_append_right _ List.mem_cons_self)
    rw [settings] at along
    exact Step.course ((policy_run r front).trans settings) (routed_run routed front gateway) here
      along

theorem retry_discipline_two_sweeps :
    let gateway := GatewayId.ofNumber 1
    let command := DownlinkCommand.plain ⟨0x408B200000000000⟩ 14 (.fsk 50000) [1]
    let r := ((empty .standard).run
      [.handle (.pullData ⟨7⟩ gateway) ⟨"192.0.2.1:1700"⟩ 0, .send gateway command 5]).1
    r.downlink? gateway ⟨0⟩ = some ⟨.pullResp ⟨0⟩ command, 2005, 0⟩ ∧
      (Step.mk (r.run [.sweep 2004]).1 (.sweep 2005)).after.downlink? gateway ⟨0⟩ =
        some ⟨.pullResp ⟨0⟩ command, 4005, 1⟩ := by
  intro gateway command r
  have held : r.downlink? gateway ⟨0⟩ = some ⟨.pullResp ⟨0⟩ command, 2005, 0⟩ := by decide +kernel
  have spares : ∀ s ∈ r.steps [.sweep 2004, .sweep 2005], s.Spares gateway ⟨0⟩ := by
    decide +kernel
  have course := ((retry_discipline .standard gateway ⟨0⟩ _).1 _ held).2.2 _ spares
    [.sweep 2004] (.sweep 2005) [] rfl
  exact ⟨held, (course.again _ 2005 rfl rfl (by decide) (by decide)).1⟩

end Registry

end GatewayLink
