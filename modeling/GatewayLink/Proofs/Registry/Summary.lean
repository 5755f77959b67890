import GatewayLink.Proofs.Registry.Acknowledgment

/-! What a session keeps of its gateway.
A gateway is heard from when it sends a request, or when an acknowledgment comes from an address of its own.
The route, the instants and the count of stale acknowledgments of a session are those of the contacts since
it was opened: the contacts of an earlier session and the packets of other gateways leave no trace. -/

namespace GatewayLink

inductive Contact where
  | pushed (now : Instant)
  | pulled (source : Address) (now : Instant)
  | acked (stale : Bool) (now : Instant)
  deriving DecidableEq

namespace Contact

def instant : Contact → Instant
  | pushed now | pulled _ now | acked _ now => now

def route? : Contact → Option Address
  | pulled source _ => some source
  | _ => none

def keepAlive? : Contact → Option Instant
  | pulled _ now => some now
  | _ => none

def isStale : Contact → Bool
  | acked stale _ => stale
  | _ => false

theorem instant_of_keepAlive {c : Contact} {now : Instant} (keepsAlive : c.keepAlive? = some now) :
    c.instant = now := by
  cases c with
  | pulled source instant => exact Option.some.inj keepsAlive
  | _ => cases keepsAlive

end Contact

structure Standing where
  route : Option Address
  lastSeen : Instant
  lastKeepalive : Instant
  staleAcks : Nat
  deriving DecidableEq

def Session.standing (s : Session) : Standing := ⟨s.route, s.lastSeen, s.lastKeepalive, s.staleAcks⟩

def SessionView.standing (v : SessionView) : Standing :=
  ⟨v.route, v.lastSeen, v.lastKeepalive, v.staleAcks⟩

def Registry.contact? (r : Registry) (gateway : GatewayId) (p : Packet) (source : Address)
    (now : Instant) : Option Contact :=
  match p.kind with
  | .pushData => if p.gateway = some gateway then some (.pushed now) else none
  | .pullData => if p.gateway = some gateway then some (.pulled source now) else none
  | .pushAck | .pullAck =>
    if r.peers[source]? = some gateway then
      some (.acked (!r.isOutstanding gateway p.token) now)
    else none
  | .pullResp => none

def Step.contact? (gateway : GatewayId) (s : Step) : Option Contact :=
  s.action.heard?.bind fun (p, source, now) => s.before.contact? gateway p source now

def Action.isRequestOf (gateway : GatewayId) (action : Action) : Bool :=
  action.request?.any fun (asked, _) => asked = gateway

def Step.opens (gateway : GatewayId) (s : Step) : Bool :=
  !s.before.isActive gateway && s.action.isRequestOf gateway

namespace Standing

def start (now : Instant) : Standing := ⟨none, now, now, 0⟩

def record (st : Standing) (c : Contact) : Standing where
  route := c.route?.or st.route
  lastSeen := max st.lastSeen c.instant
  lastKeepalive := c.keepAlive?.elim st.lastKeepalive (max st.lastKeepalive)
  staleAcks := st.staleAcks + c.isStale.toNat

/-- The standing is the sum of some contacts, of which the first came at the instant of creation. -/
structure Sums (created : Instant) (contacts : List Contact) (st : Standing) : Prop where
  route : st.route = (contacts.filterMap Contact.route?).getLast?
  lastSeen : (contacts.map Contact.instant).max? = some st.lastSeen
  lastKeepalive : (created :: contacts.filterMap Contact.keepAlive?).max? = some st.lastKeepalive
  staleAcks : st.staleAcks = contacts.countP Contact.isStale

variable {st : Standing} {created : Instant} {contacts : List Contact}

theorem max?_concat {instants : List Instant} {latest : Instant}
    (greatest : instants.max? = some latest) (now : Instant) :
    (instants ++ [now]).max? = some (max latest now) := by
  cases instants with
  | nil => cases greatest
  | cons first rest =>
    rw [List.max?_cons'] at greatest
    rw [List.cons_append, List.max?_cons', List.foldl_append, Option.some.inj greatest]
    rfl

theorem sums_opening (c : Contact) : ((start c.instant).record c).Sums c.instant [c] where
  route := by cases c <;> rfl
  lastSeen := by
    rw [record, start, Nat.max_self]
    rfl
  lastKeepalive := by cases c <;> rfl
  staleAcks := by
    rw [record, start, List.countP_singleton, Nat.zero_add]
    cases c.isStale <;> rfl

theorem Sums.record (sums : st.Sums created contacts) (c : Contact) :
    (st.record c).Sums created (contacts ++ [c]) where
  route := by
    rw [List.filterMap_append, List.getLast?_append, ← sums.route, Standing.record]
    cases routed : c.route? <;> simp [routed]
  lastSeen := by
    rw [List.map_append]
    exact max?_concat sums.lastSeen c.instant
  lastKeepalive := by
    rw [List.filterMap_append, Standing.record]
    cases keepsAlive : c.keepAlive? with
    | none => simpa [keepsAlive] using sums.lastKeepalive
    | some now =>
      rw [← List.cons_append, List.filterMap_cons_some keepsAlive]
      exact max?_concat sums.lastKeepalive now
  staleAcks := by
    rw [List.countP_append, ← sums.staleAcks, List.countP_singleton, Standing.record]
    cases c.isStale <;> rfl

theorem Sums.ordered (sums : st.Sums created contacts)
    (contacted : ∃ c ∈ contacts, c.instant = created) : st.lastKeepalive ≤ st.lastSeen := by
  have latest := (List.max?_eq_some_iff.mp sums.lastSeen).2
  have seen (now : Instant) (contacted : ∃ c ∈ contacts, c.instant = now) : now ≤ st.lastSeen := by
    obtain ⟨c, member, rfl⟩ := contacted
    exact latest _ (List.mem_map_of_mem member)
  apply seen
  rcases List.mem_cons.mp (List.max?_eq_some_iff.mp sums.lastKeepalive).1 with first | later
  · rw [first]
    exact contacted
  · obtain ⟨c, member, keepsAlive⟩ := List.mem_filterMap.mp later
    exact ⟨c, member, Contact.instant_of_keepAlive keepsAlive⟩

theorem le_record (st : Standing) (c : Contact) :
    st.lastKeepalive ≤ (st.record c).lastKeepalive ∧ st.lastSeen ≤ (st.record c).lastSeen := by
  refine ⟨?_, Nat.le_max_left _ _⟩
  rw [record]
  cases c.keepAlive? with
  | none => exact Nat.le_refl _
  | some now => exact Nat.le_max_left _ _

end Standing

namespace Session

variable (policy : Policy) (now : Instant) (token : Token) (s : Session)

theorem standing_acknowledged :
    (s.acknowledged token now).standing =
      s.standing.record (.acked (!s.pending.contains token) now) := by
  unfold acknowledged
  cases s.pending.contains token <;> rfl

theorem standing_submitted (command : DownlinkCommand) :
    (s.submitted policy command now).standing = s.standing := by
  unfold submitted
  split
  · next token next _ taken =>
    have kept : next.standing = s.standing := by
      simp only [allocate?, Option.map_eq_some_iff, Prod.mk.injEq] at taken
      obtain ⟨number, -, -, rfl⟩ := taken
      rfl
    split <;> exact kept
  · rfl

end Session

namespace Registry

variable {r : Registry} {gateway : GatewayId}

def standing? (r : Registry) (gateway : GatewayId) : Option Standing :=
  (r.session? gateway).map Session.standing

/-- What has become of a standing when a contact, or something else, has been handled. -/
def standingAfter? (r : Registry) (gateway : GatewayId) : Option Contact → Option Standing
  | some c => some ((r.sessionAt gateway c.instant).standing.record c)
  | none => r.standing? gateway

theorem standingAfter?_of_standing? {st : Standing} (found : r.standing? gateway = some st)
    (contact : Option Contact) :
    r.standingAfter? gateway contact = some (contact.elim st st.record) := by
  cases contact with
  | none => exact found
  | some c =>
    obtain ⟨s, held, rfl⟩ := Option.map_eq_some_iff.mp found
    rw [standingAfter?, sessionAt, held]
    rfl

theorem standing?_handle (p : Packet) (source : Address) (now : Instant)
    (live : r.peers[source]? = some gateway → (r.session? gateway).isSome = true) :
    (r.handle p source now).registry.standing? gateway =
      r.standingAfter? gateway (r.contact? gateway p source now) := by
  have answered (kind : p.kind = .pushAck ∨ p.kind = .pullAck) :
      (r.handle p source now).registry.standing? gateway =
        r.standingAfter? gateway (if r.peers[source]? = some gateway then
          some (.acked (!r.isOutstanding gateway p.token) now) else none) := by
    rw [handle_of_ack kind, standing?, session?_acknowledge]
    split
    · next owned =>
      obtain ⟨s, found⟩ := Option.isSome_iff_exists.mp (live owned)
      have held : r.isOutstanding gateway p.token = s.pending.contains p.token := by
        rw [isOutstanding, downlink?, found, Std.ExtTreeMap.contains_eq_isSome_getElem?]
        rfl
      rw [held, found, standingAfter?, sessionAt, found]
      exact congrArg some (s.standing_acknowledged now p.token)
    · rfl
  obtain ⟨_, token, kind, sender, body⟩ := p
  cases kind with
  | pushData =>
    cases sender with
    | none => rfl
    | some sender =>
      rw [standing?, handle, session?_push, contact?]
      by_cases own : sender = gateway
      · subst own
        simp only [if_true, standingAfter?]
        rfl
      · simp only [if_neg own, Option.some.injEq]
        rfl
  | pullData =>
    cases sender with
    | none => rfl
    | some sender =>
      rw [standing?, handle, session?_pull, contact?]
      by_cases own : sender = gateway
      · subst own
        simp only [if_true, standingAfter?]
        rfl
      · simp only [if_neg own, Option.some.injEq]
        rfl
  | pushAck => exact answered (.inl rfl)
  | pullAck => exact answered (.inr rfl)
  | pullResp => rfl

end Registry

theorem Action.isRequestOf_iff {action : Action} {gateway : GatewayId} :
    action.isRequestOf gateway = true ↔ ∃ source, action.request? = some (gateway, source) := by
  simp [isRequestOf, Option.any_eq_true]

namespace Share.Change

variable {policy : Policy} {gateway : GatewayId} {action : Action} {sh next : Share}

theorem activity (change : Change policy gateway action sh next) :
    (sh.session.isNone && action.isRequestOf gateway).toNat + sh.session.isSome.toNat =
      (sh.loses next).toNat + next.session.isSome.toNat := by
  cases change with
  | pushed p source now brought kind own =>
    have request := Action.request?_of_names brought (by rw [kind]; rfl) own
    cases found : sh.session <;> simp [Action.isRequestOf, request, loses]
  | pulled p source now brought kind own =>
    have request := Action.request?_of_names brought (by rw [kind]; rfl) own
    cases found : sh.session <;> simp [Action.isRequestOf, request, loses]
  | yielded other source request foreign =>
    cases found : sh.session <;> simp [Action.isRequestOf, request, foreign, loses, found]
  | acknowledged p source now s _ _ _ found => simp [found, loses]
  | submitted s command now _ found => simp [found, loses]
  | released s token _ found => simp [found, loses]
  | expired s now _ found _ => simp [found, loses]
  | closed ends =>
    have unrequested : action.request? = none := by
      rcases ends with rfl | ⟨now, s, rfl, -, -⟩ <;> rfl
    simp [Action.isRequestOf, unrequested, loses, Share.closed]
  | kept unrequested =>
    cases found : sh.session <;> simp [Action.isRequestOf, unrequested, loses, found]

theorem standing_of_unheard (change : Change policy gateway action sh next)
    (unheard : action.heard? = none) (kept : sh.loses next = false) :
    next.session.map Session.standing = sh.session.map Session.standing := by
  cases change with
  | pushed p source now brought _ _ => cases unheard.symm.trans brought
  | pulled p source now brought _ _ => cases unheard.symm.trans brought
  | yielded other source request _ =>
    rw [Action.request?, unheard] at request
    cases request
  | acknowledged p source now s brought _ _ _ => cases unheard.symm.trans brought
  | submitted s command now _ found =>
    rw [session_withSession, found, Option.map_some, s.standing_submitted]
    rfl
  | released s token _ found =>
    rw [session_withSession, found]
    rfl
  | expired s now _ found _ =>
    rw [session_withSession, found]
    rfl
  | closed _ =>
    cases found : sh.session with
    | none => rfl
    | some s => simp [loses, found, Share.closed] at kept
  | kept _ => rfl

end Share.Change

namespace Step

open Registry

variable {s : Step} {gateway : GatewayId}

theorem activity (s : Step) (gateway : GatewayId) :
    (s.opens gateway).toNat + (s.before.isActive gateway).toNat =
      (s.closes gateway).toNat + (s.after.isActive gateway).toNat := by
  rw [opens, isActive_eq, isActive_eq, Option.not_isSome]
  exact (s.change gateway).activity

theorem contact?_of_unheard (unheard : s.action.heard? = none) : s.contact? gateway = none := by
  rw [contact?, unheard, Option.bind_none]

theorem standing?_after
    (live : ∀ source : Address, s.before.peers[source]? = some gateway →
      (s.before.session? gateway).isSome = true)
    (kept : s.closes gateway = false) :
    s.after.standing? gateway = s.before.standingAfter? gateway (s.contact? gateway) := by
  cases brought : s.action.heard? with
  | none =>
    rw [contact?_of_unheard brought]
    exact (s.change gateway).standing_of_unheard brought kept
  | some heard =>
    obtain ⟨p, source, now⟩ := heard
    have after : s.after = (s.before.handle p source now).registry := (perform_of_heard brought).2
    rw [after, contact?, brought, Option.bind_some]
    exact standing?_handle p source now (live source)

theorem kept_of_calls
    (calls : (∃ target command now, s.action = .send target command now) ∨
      (∃ target token, s.action = .cancel target token) ∨
      ∃ now, s.action = .sweep now ∧ s.before.evicts now gateway = false) :
    s.action.heard? = none ∧ s.closes gateway = false := by
  rw [Bool.eq_false_iff]
  refine ⟨?_, fun closes => ?_⟩
  · rcases calls with ⟨_, _, _, sends⟩ | ⟨_, _, cancels⟩ | ⟨_, sweeps, -⟩
    · rw [sends]
      rfl
    · rw [cancels]
      rfl
    · rw [sweeps]
      rfl
  · obtain ⟨-, ends⟩ := (s.closes_iff gateway).mp closes
    rcases calls with ⟨_, _, _, sends⟩ | ⟨_, _, cancels⟩ | ⟨_, sweeps, spared⟩
    · simp [sends] at ends
    · simp [cancels] at ends
    · simp [sweeps, spared] at ends

end Step

/-- The steps of the session that a gateway has after them: the one that opened it by a contact, and those
that found it there. -/
structure Lifetime (gateway : GatewayId) (opening : Contact) (first : Step) (rest : List Step) :
    Prop where
  opens : first.opens gateway = true
  contact : first.contact? gateway = some opening
  lasts : ∀ s ∈ rest, s.before.isActive gateway = true

/-- What the view of a session says of the steps so far. -/
structure Registry.Summarizes (r : Registry) (steps : List Step) (gateway : GatewayId)
    (view : SessionView) : Prop where
  /-- It is the sum of the contacts since the session was opened. -/
  contacts : ∃ opening first rest, first :: rest <:+ steps ∧
    Lifetime gateway opening first rest ∧
    view.standing.Sums opening.instant ((first :: rest).filterMap (Step.contact? gateway))
  pending : ∃ tokens : List Token, tokens.Nodup ∧
    (∀ token, token ∈ tokens ↔ r.isOutstanding gateway token = true) ∧
    view.pending = tokens.length
  ordered : view.lastKeepalive ≤ view.lastSeen
  /-- As long as the session lasts, its instants do not decrease. -/
  monotone : ∀ later, (∀ s ∈ r.steps later, s.closes gateway = false) →
    ∃ next, (r.run later).1.view? gateway = some next ∧
      view.lastKeepalive ≤ next.lastKeepalive ∧ view.lastSeen ≤ next.lastSeen
  /-- Calls and sweeps have no part in it but for what is pending. -/
  untouched : ∀ action, (∃ target command now, action = .send target command now) ∨
      (∃ target token, action = .cancel target token) ∨
      (∃ now, action = .sweep now ∧ r.evicts now gateway = false) →
    ∃ pending, (r.perform action).registry.view? gateway = some { view with pending }

namespace Registry

variable {policy : Policy} {actions later : List Action} {gateway : GatewayId} {st : Standing}

theorem view?_of_standing? {r : Registry} (found : r.standing? gateway = some st) :
    ∃ pending, r.view? gateway =
      some ⟨gateway, st.route, st.lastSeen, st.lastKeepalive, pending, st.staleAcks⟩ := by
  obtain ⟨s, there, rfl⟩ := Option.map_eq_some_iff.mp found
  exact ⟨s.pending.size, by rw [view?, there]; rfl⟩

theorem sums_run (found : ((empty policy).run actions).1.standing? gateway = some st) :
    ∃ opening first rest, first :: rest <:+ (empty policy).steps actions ∧
      Lifetime gateway opening first rest ∧
      st.Sums opening.instant ((first :: rest).filterMap (Step.contact? gateway)) := by
  induction actions using List.reverseRecOn generalizing st with
  | nil =>
    rw [run, standing?, session?_empty] at found
    cases found
  | append_singleton actions action ih =>
    let s : Step := ⟨((empty policy).run actions).1, action⟩
    rw [run_concat] at found
    have found : s.after.standing? gateway = some st := found
    have there : (s.after.session? gateway).isSome = true := by
      rw [← Option.isSome_map, ← standing?, found]
      rfl
    have kept : s.closes gateway = false := by
      rw [Step.closes, ← Option.not_isSome, there, Bool.not_true, Bool.and_false]
    rw [Step.standing?_after (fun source owned => isSome_of_owned owned) kept] at found
    rw [steps_concat]
    -- either the session was there before the last step, or the last step opened it
    cases earlier : s.before.standing? gateway with
    | none =>
      have fresh : s.before.session? gateway = none := Option.map_eq_none_iff.mp earlier
      have opens : s.opens gateway = true := by
        have activity := s.activity gateway
        rw [isActive_eq, isActive_eq, fresh, there, kept] at activity
        exact Bool.toNat_eq_one.mp activity
      cases contact : s.contact? gateway with
      | none =>
        rw [contact, standingAfter?, earlier] at found
        cases found
      | some opening =>
        refine ⟨opening, s, [], List.suffix_append _ _,
          ⟨opens, contact, List.forall_mem_nil _⟩, ?_⟩
        rw [contact, standingAfter?, sessionAt, fresh] at found
        rw [List.filterMap_cons_some contact, ← Option.some.inj found]
        exact Standing.sums_opening opening
    | some before =>
      obtain ⟨opening, first, rest, ⟨front, split⟩, life, sums⟩ := ih earlier
      refine ⟨opening, first, rest ++ [s], ⟨front, ?_⟩, ⟨life.opens, life.contact, ?_⟩, ?_⟩
      · rw [← split, List.append_assoc]
        rfl
      · intro step member
        rcases List.mem_append.mp member with old | new
        · exact life.lasts step old
        · rw [List.mem_singleton.mp new, isActive_eq, ← Option.isSome_map, ← standing?, earlier]
          rfl
      · rw [standingAfter?_of_standing? earlier] at found
        rw [← List.cons_append, List.filterMap_append, ← Option.some.inj found]
        cases contact : s.contact? gateway with
        | none =>
          rw [List.filterMap_cons_none contact, List.filterMap_nil, List.append_nil]
          exact sums
        | some c =>
          rw [List.filterMap_cons_some contact]
          exact sums.record c

theorem standing?_run_le (found : ((empty policy).run actions).1.standing? gateway = some st)
    (kept : ∀ s ∈ ((empty policy).run actions).1.steps later, s.closes gateway = false) :
    ∃ next, ((empty policy).run (actions ++ later)).1.standing? gateway = some next ∧
      st.lastKeepalive ≤ next.lastKeepalive ∧ st.lastSeen ≤ next.lastSeen := by
  -- from the end of the run, as `standing?_after` compares a step with what was before it
  induction later using List.reverseRecOn with
  | nil =>
    rw [List.append_nil]
    exact ⟨st, found, Nat.le_refl _, Nat.le_refl _⟩
  | append_singleton later action ih =>
    rw [steps_concat] at kept
    obtain ⟨earlier, before, keepalive, seen⟩ :=
      ih fun s member => kept s (List.mem_append_left _ member)
    let s : Step := ⟨((empty policy).run (actions ++ later)).1, action⟩
    have lasts : s.closes gateway = false := by
      have last := kept _ (List.mem_append_right _ (List.mem_singleton_self _))
      rwa [← run_append_registry] at last
    have becomes := Step.standing?_after (fun source owned => isSome_of_owned owned) lasts
    rw [standingAfter?_of_standing? before] at becomes
    rw [← List.append_assoc, run_concat]
    refine ⟨_, becomes, ?_⟩
    cases s.contact? gateway with
    | none => exact ⟨keepalive, seen⟩
    | some c =>
      obtain ⟨keepalive', seen'⟩ := earlier.le_record c
      exact ⟨Nat.le_trans keepalive keepalive', Nat.le_trans seen seen'⟩

end Registry

end GatewayLink
