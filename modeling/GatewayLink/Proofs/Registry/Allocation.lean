import GatewayLink.Proofs.Registry.Numbering
import GatewayLink.Proofs.Registry.Summary

/-! The order in which tokens are taken.
A session looks for a free token once around its counter, and takes the first that comes. Before it takes
the same token again its counter comes by all the others: each was taken in between, or it was outstanding when
the counter passed it. -/

namespace GatewayLink

/-- How many numbers a counter shows before it comes to that of a token. -/
def Token.ahead (counter : UInt16) (token : Token) : Nat := (token.number - counter).toNat

namespace Token

variable {counter : UInt16} {token other : Token}

theorem ahead_eq (counter : UInt16) (token : Token) :
    token.ahead counter = (65536 - counter.toNat + token.number.toNat) % 65536 :=
  UInt16.toNat_sub token.number counter

theorem ahead_lt (counter : UInt16) (token : Token) : token.ahead counter < 65536 :=
  UInt16.toNat_lt _

theorem ahead_self (counter : UInt16) : (Token.mk counter).ahead counter = 0 := by
  simp [ahead]

theorem ahead_succ_self (counter : UInt16) : (Token.mk counter).ahead (counter + 1) = 65535 := by
  have below := counter.toNat_lt
  rw [ahead_eq, UInt16.toNat_add, UInt16.toNat_one]
  dsimp only
  omega

theorem ahead_inj : token.ahead counter = other.ahead counter ↔ token = other := by
  refine ⟨fun same => ?_, fun same => by rw [same]⟩
  have counted := counter.toNat_lt
  have below := token.number.toNat_lt
  have below' := other.number.toNat_lt
  rw [ahead_eq, ahead_eq] at same
  have numbers : token.number = other.number := UInt16.toNat_inj.mp (by omega)
  exact congrArg Token.mk numbers

theorem ahead_of_nearer (nearer : token.ahead counter < other.ahead counter) :
    other.ahead counter = other.ahead (token.number + 1) + token.ahead counter + 1 := by
  have counted := counter.toNat_lt
  have below := token.number.toNat_lt
  have below' := other.number.toNat_lt
  rw [ahead_eq, ahead_eq] at nearer
  rw [ahead_eq, ahead_eq, ahead_eq, UInt16.toNat_add, UInt16.toNat_one]
  omega

theorem ahead_of_ne (different : token ≠ ⟨counter⟩) :
    token.ahead counter = token.ahead (counter + 1) + 1 := by
  have nearer : (Token.mk counter).ahead counter < token.ahead counter := by
    rw [ahead_self]
    refine Nat.pos_of_ne_zero fun none_ahead => different ?_
    rw [← ahead_self counter] at none_ahead
    exact ahead_inj.mp none_ahead
  have way := ahead_of_nearer nearer
  rwa [ahead_self, Nat.add_zero] at way

end Token

namespace Session

/-- The token is the first free one in cyclic order from the counter. -/
structure NextFree (s : Session) (token : Token) : Prop where
  free : s.pending.contains token = false
  passed : ∀ other : Token, other.ahead s.nextToken < token.ahead s.nextToken →
    s.pending.contains other = true

theorem firstFree_cases (taken : Token → Bool) {count : Nat} (within : count ≤ 65536)
    (number : UInt16) :
    (∃ token : Token, firstFree taken count number = some token.number ∧ taken token = false ∧
        token.ahead number < count ∧
        ∀ other : Token, other.ahead number < token.ahead number → taken other = true) ∨
      firstFree taken count number = none ∧
        ∀ other : Token, other.ahead number < count → taken other = true := by
  induction count generalizing number with
  | zero => exact .inr ⟨rfl, nofun⟩
  | succ count ih =>
    rw [firstFree]
    cases shown : taken ⟨number⟩ with
    | false =>
      refine .inl ⟨⟨number⟩, rfl, shown, ?_, fun other nearer => ?_⟩
      · rw [Token.ahead_self]
        exact Nat.succ_pos count
      · rw [Token.ahead_self] at nearer
        cases nearer
    | true =>
      rw [if_pos rfl]
      -- the number shown is the last one that the rest of the way around could come to
      have last := Token.ahead_succ_self number
      have later (other : Token) (bound : Nat)
          (rest : other.ahead (number + 1) < bound → taken other = true)
          (nearer : other.ahead number < bound + 1) : taken other = true := by
        by_cases same : other = ⟨number⟩
        · rw [same, shown]
        · rw [Token.ahead_of_ne same] at nearer
          exact rest (Nat.lt_of_succ_lt_succ nearer)
      rcases ih (Nat.le_of_succ_le within) (number + 1) with
        ⟨token, found, free, near, passed⟩ | ⟨none_found, full⟩
      · have different : token ≠ ⟨number⟩ := by
          rintro rfl
          omega
        have way := Token.ahead_of_ne different
        refine .inl ⟨token, found, free, by omega, fun other nearer => ?_⟩
        exact later other _ (passed other) (way ▸ nearer)
      · exact .inr ⟨none_found, fun other => later other count (full other)⟩

variable {s : Session} {token other : Token}

theorem NextFree.unique (first : s.NextFree token) (also : s.NextFree other) : token = other := by
  rcases Nat.lt_trichotomy (token.ahead s.nextToken) (other.ahead s.nextToken) with
    nearer | same | nearer
  · have taken := also.passed token nearer
    rw [first.free] at taken
    cases taken
  · exact Token.ahead_inj.mp same
  · have taken := first.passed other nearer
    rw [also.free] at taken
    cases taken

theorem drawWithin_eq (count : Nat) (s : Session) :
    drawWithin count s =
      match firstFree s.pending.contains count s.nextToken with
      | some number => (some ⟨number⟩, { s with nextToken := number + 1 })
      | none => (none, { s with nextToken := s.nextToken + UInt16.ofNat count }) := by
  induction count generalizing s with
  | zero => simp [drawWithin, firstFree]
  | succ count ih =>
    rw [drawWithin, firstFree]
    split
    · rw [ih]
      have around : s.nextToken + 1 + UInt16.ofNat count =
          s.nextToken + UInt16.ofNat (count + 1) := by
        rw [UInt16.ofNat_add, UInt16.add_assoc, UInt16.add_comm 1]
        rfl
      rw [around]
    · rfl

/-- A session takes the next free token and moves its counter past it, or all tokens are outstanding and the
counter comes around to where it was. -/
theorem draw_cases (s : Session) :
    (∃ token, s.NextFree token ∧
        s.draw = (some token, { s with nextToken := token.number + 1 })) ∨
      (∀ token : Token, s.pending.contains token = true) ∧ s.draw = (none, s) := by
  rcases firstFree_cases s.pending.contains (Nat.le_refl 65536) s.nextToken with
    ⟨token, found, free, -, passed⟩ | ⟨none_found, full⟩
  · refine .inl ⟨token, ⟨free, passed⟩, ?_⟩
    rw [draw, drawWithin_eq, found]
  · refine .inr ⟨fun token => full token (token.ahead_lt _), ?_⟩
    have around : s.nextToken + UInt16.ofNat 65536 = s.nextToken := UInt16.add_zero s.nextToken
    rw [draw, drawWithin_eq, none_found, around]

theorem allocate?_eq_draw (s : Session) :
    s.allocate? = s.draw.1.map fun token => (token, s.draw.2) := by
  rw [allocate?, draw, drawWithin_eq]
  cases firstFree s.pending.contains 65536 s.nextToken <;> rfl

theorem draw_eq_some_iff : s.draw.1 = some token ↔ s.NextFree token := by
  rcases s.draw_cases with ⟨first, next, drawn⟩ | ⟨full, drawn⟩
  · rw [drawn, Option.some.injEq]
    exact ⟨fun same => same ▸ next, next.unique⟩
  · rw [drawn]
    refine iff_of_false nofun fun next => ?_
    have taken := full token
    rw [next.free] at taken
    cases taken

theorem nextFree_of_only (only : ∀ other : Token, s.pending.contains other = true ↔ other ≠ token) :
    s.NextFree token where
  free := by simp [← Bool.not_eq_true, only]
  passed other nearer := (only other).mpr fun same => Nat.lt_irrefl _ (same ▸ nearer)

theorem draw_eq_none_iff :
    s.draw.1 = none ↔ ∀ token : Token, s.pending.contains token = true := by
  rcases s.draw_cases with ⟨first, next, drawn⟩ | ⟨full, drawn⟩
  · rw [drawn]
    refine iff_of_false nofun fun full => ?_
    have taken := full first
    rw [next.free] at taken
    cases taken
  · rw [drawn]
    exact iff_of_true rfl full

theorem snd_draw_of_some (drawn : s.draw.1 = some token) :
    s.draw.2 = { s with nextToken := token.number + 1 } := by
  rcases s.draw_cases with ⟨first, next, drawn'⟩ | ⟨full, drawn'⟩
  · rw [drawn'] at drawn ⊢
    cases drawn
    rfl
  · rw [drawn'] at drawn
    cases drawn

theorem snd_draw_of_none (none_drawn : s.draw.1 = none) : s.draw.2 = s := by
  rcases s.draw_cases with ⟨first, next, drawn⟩ | ⟨full, drawn⟩
  · rw [drawn] at none_drawn
    cases none_drawn
  · rw [drawn]

theorem nextToken_submitted (policy : Policy) (command : DownlinkCommand) (now : Instant)
    (s : Session) :
    (s.submitted policy command now).nextToken =
      if s.route.isSome then s.draw.2.nextToken else s.nextToken := by
  rw [submitted, allocate?_eq_draw]
  cases s.route with
  | none => rfl
  | some route =>
    cases drawn : s.draw.1 with
    | none => rw [snd_draw_of_none drawn]; rfl
    | some token =>
      dsimp only [Option.map_some, Option.isSome_some]
      rw [if_pos rfl]
      split <;> rfl

end Session

theorem Share.Change.nextToken {policy : Policy} {gateway : GatewayId} {action : Action}
    {sh next : Share} {s : Session} (change : Change policy gateway action sh next)
    (found : sh.session = some s) (kept : sh.loses next = false) :
    ∃ t, next.session = some t ∧ (t.nextToken = s.nextToken ∨
      ∃ command now, action = .send gateway command now ∧ t = s.submitted policy command now) := by
  have here (now : Instant) : (sh.sessionAt now).nextToken = s.nextToken := by
    rw [sessionAt, found, Option.getD_some]
  cases change with
  | pushed _ _ now _ _ _ => exact ⟨_, rfl, .inl (here now)⟩
  | pulled _ _ now _ _ _ => exact ⟨_, rfl, .inl (here now)⟩
  | yielded _ _ _ _ => exact ⟨s, found, .inl rfl⟩
  | acknowledged p _ now t _ _ _ there =>
    cases found.symm.trans there
    exact ⟨_, rfl, .inl (s.nextToken_acknowledged p.token now)⟩
  | submitted t command now submits there =>
    cases found.symm.trans there
    exact ⟨_, rfl, .inr ⟨command, now, submits, rfl⟩⟩
  | released t _ _ there =>
    cases found.symm.trans there
    exact ⟨_, rfl, .inl rfl⟩
  | expired t _ _ there _ =>
    cases found.symm.trans there
    exact ⟨_, rfl, .inl rfl⟩
  | closed _ => simp [loses, found, Share.closed] at kept
  | kept _ => exact ⟨s, found, .inl rfl⟩

namespace Step

/-- The session that a step looks for a token of a gateway in: a submission for it finds a route there. -/
def drawer? (gateway : GatewayId) (s : Step) : Option Session :=
  match s.action with
  | .send target _ _ =>
    if target = gateway then (s.before.session? gateway).filter fun session => session.route.isSome
    else none
  | _ => none

/-- The step takes a token of a gateway off the counter. -/
def Draws (gateway : GatewayId) (token : Token) (s : Step) : Prop :=
  ∃ session, s.drawer? gateway = some session ∧ session.draw.1 = some token

/-- The counter of a gateway passes a token in the step, and finds it outstanding. -/
def Passes (gateway : GatewayId) (token : Token) (s : Step) : Prop :=
  ∃ session, s.drawer? gateway = some session ∧ session.pending.contains token = true ∧
    ∀ drawn, session.draw.1 = some drawn →
      token.ahead session.nextToken < drawn.ahead session.nextToken

variable {s : Step} {gateway : GatewayId} {token : Token} {session : Session}

theorem drawer?_eq_some :
    s.drawer? gateway = some session ↔
      s.before.session? gateway = some session ∧ session.route.isSome = true ∧
        ∃ command now, s.action = .send gateway command now := by
  obtain ⟨r, action⟩ := s
  cases action with
  | send target command now =>
    simp only [drawer?]
    by_cases own : target = gateway
    · subst own
      simp [Option.filter_eq_some_iff]
    · simp [own]
  | _ => simp [drawer?]

theorem draws_of_accepts (accepts : s.accepts gateway token = true) : s.Draws gateway token := by
  obtain ⟨issue, ⟨now, action⟩, -, -⟩ := exists_issue_of_accepts accepts
  obtain ⟨r, action'⟩ := s
  cases action
  obtain ⟨-, session, route, found, issued⟩ := (accepts_send gateway token r _ _ _).mp accepts
  refine ⟨session, drawer?_eq_some.mpr ⟨found, ?_, _, _, rfl⟩, ?_⟩
  · rw [(Session.issue?_free issued).2]
    rfl
  · unfold Session.issue? at issued
    split at issued
    · next taken =>
      rw [Session.allocate?_eq_draw] at taken
      obtain ⟨drawn, found, same⟩ := Option.map_eq_some_iff.mp taken
      cases same
      split at issued
      · cases issued
        exact found
      · cases issued
    · cases issued

theorem counter_of_drawer (drawer : s.drawer? gateway = some session) :
    ∃ next, s.after.session? gateway = some next ∧ next.nextToken = session.draw.2.nextToken := by
  obtain ⟨found, routed, command, now, action⟩ := drawer?_eq_some.mp drawer
  obtain ⟨r, action'⟩ := s
  cases action
  refine ⟨session.submitted r.policy command now, ?_, ?_⟩
  · refine (Registry.session?_send r gateway gateway now command).trans ?_
    rw [if_pos rfl, found, Option.map_some]
  · rw [Session.nextToken_submitted, if_pos routed]

theorem counter_of_other (found : s.before.session? gateway = some session)
    (kept : s.closes gateway = false) (other : s.drawer? gateway = none) :
    ∃ next, s.after.session? gateway = some next ∧ next.nextToken = session.nextToken := by
  obtain ⟨next, becomes, same | ⟨command, now, action, rfl⟩⟩ :=
    (s.change gateway).nextToken found kept
  · exact ⟨next, becomes, same⟩
  · refine ⟨_, becomes, ?_⟩
    rw [Session.nextToken_submitted, if_neg]
    intro routed
    rw [drawer?_eq_some.mpr ⟨found, routed, command, now, action⟩] at other
    cases other

end Step

namespace Registry

variable {r : Registry} {gateway : GatewayId} {token other : Token} {session : Session}

/-- Until a token is taken, every token that the counter comes by first is taken or outstanding when the
counter passes it. -/
theorem accounted_run {between : List Action} {last : Action}
    (found : r.session? gateway = some session)
    (kept : ∀ s ∈ r.steps between, s.closes gateway = false)
    (taken : (Step.mk (r.run between).1 last).Draws gateway token)
    (nearer : other.ahead session.nextToken < token.ahead session.nextToken) :
    ∃ s ∈ r.steps (between ++ [last]), s.Draws gateway other ∨ s.Passes gateway other := by
  -- `token` stays ahead of the counter until it is taken, and `other` nearer than that until it is passed
  induction between generalizing r session with
  | nil =>
    obtain ⟨drawer, looks, drawn⟩ := taken
    cases found.symm.trans (Step.drawer?_eq_some.mp looks).1
    have next := Session.draw_eq_some_iff.mp drawn
    refine ⟨_, List.mem_singleton_self _, .inr ⟨session, looks, next.passed other nearer, ?_⟩⟩
    intro also same
    cases drawn.symm.trans same
    exact nearer
  | cons action rest ih =>
    let s : Step := ⟨r, action⟩
    have later := fun step member => kept step (List.mem_cons_of_mem s member)
    have widen : (∃ step ∈ s.after.steps (rest ++ [last]),
        step.Draws gateway other ∨ step.Passes gateway other) →
        ∃ step ∈ r.steps (action :: rest ++ [last]),
          step.Draws gateway other ∨ step.Passes gateway other := by
      rintro ⟨step, member, accounted⟩
      exact ⟨step, List.mem_cons_of_mem s member, accounted⟩
    cases drawer : s.drawer? gateway with
    | none =>
      obtain ⟨next, becomes, same⟩ :=
        Step.counter_of_other found (kept s List.mem_cons_self) drawer
      exact widen (ih becomes later taken (same ▸ nearer))
    | some looked =>
      cases found.symm.trans (Step.drawer?_eq_some.mp drawer).1
      obtain ⟨next, becomes, moved⟩ := Step.counter_of_drawer drawer
      cases drawn : session.draw.1 with
      | none =>
        rw [Session.snd_draw_of_none drawn] at moved
        exact widen (ih becomes later taken (moved ▸ nearer))
      | some first =>
        rw [Session.snd_draw_of_some drawn] at moved
        -- the counter passes the token in this step, or stops at it, or before it
        rcases Nat.lt_trichotomy (other.ahead session.nextToken) (first.ahead session.nextToken)
          with before | here | behind
        · have outstanding := (Session.draw_eq_some_iff.mp drawn).passed other before
          refine ⟨s, List.mem_cons_self, .inr ⟨session, drawer, outstanding, ?_⟩⟩
          intro also same
          cases drawn.symm.trans same
          exact before
        · cases Token.ahead_inj.mp here
          exact ⟨s, List.mem_cons_self, .inl ⟨session, drawer, drawn⟩⟩
        · refine widen (ih becomes later taken ?_)
          have way := Token.ahead_of_nearer behind
          have way' := Token.ahead_of_nearer (Nat.lt_trans behind nearer)
          rw [moved]
          dsimp only
          omega

/-- A session takes the first token that is free in cyclic order from its counter, and moves the counter past
it; only if all are outstanding does it take none, and the counter comes around to where it was. Between two
times that it takes the same token, every other token is taken, or is outstanding when the counter passes
it. -/
theorem tokens_taken_in_turn :
    (∀ s : Session,
      (s.draw.1 = none ↔ ∀ token : Token, s.pending.contains token = true) ∧
      (s.draw.1 = none → s.draw.2 = s) ∧
      (∀ token, s.draw.1 = some token ↔ s.NextFree token) ∧
      (∀ token, s.draw.1 = some token → s.draw.2 = { s with nextToken := token.number + 1 }) ∧
      s.allocate? = s.draw.1.map fun token => (token, s.draw.2)) ∧
    (∀ (s : Step) (gateway : GatewayId) (token : Token),
      s.accepts gateway token = true → s.Draws gateway token) ∧
    ∀ (r : Registry) (gateway : GatewayId) (token : Token) (first last : Action)
      (between : List Action),
      (∀ s ∈ r.steps (first :: between), s.closes gateway = false) →
      (Step.mk r first).Draws gateway token →
      (Step.mk (r.run (first :: between)).1 last).Draws gateway token →
      ∀ other, other ≠ token →
        ∃ s ∈ (r.perform first).registry.steps (between ++ [last]),
          s.Draws gateway other ∨ s.Passes gateway other := by
  refine ⟨fun s => ⟨Session.draw_eq_none_iff, Session.snd_draw_of_none,
    fun token => Session.draw_eq_some_iff, fun token => Session.snd_draw_of_some,
    s.allocate?_eq_draw⟩, fun s gateway token => Step.draws_of_accepts,
    fun r gateway token first last between kept taken again other different => ?_⟩
  obtain ⟨session, looks, drawn⟩ := taken
  obtain ⟨next, becomes, moved⟩ := Step.counter_of_drawer looks
  rw [Session.snd_draw_of_some drawn] at moved
  refine accounted_run becomes (fun s member => kept s (List.mem_cons_of_mem _ member)) again ?_
  -- right after a token, the counter has all the others ahead of it
  have last : token.ahead (token.number + 1) = 65535 := Token.ahead_succ_self token.number
  have within := other.ahead_lt next.nextToken
  rw [moved] at within ⊢
  dsimp only at within ⊢
  have apart : other.ahead (token.number + 1) ≠ token.ahead (token.number + 1) :=
    fun same => different (Token.ahead_inj.mp same)
  omega

theorem draws_again {s : Session} (found : r.session? gateway = some s)
    (routed : s.route.isSome = true)
    (only : ∀ other : Token, s.pending.contains other = true ↔ other ≠ token)
    (command : DownlinkCommand) (now : Instant) :
    let send := Action.send gateway command now
    (Step.mk r send).Draws gateway token ∧
      (Step.mk (r.run [send, .cancel gateway token]).1 send).Draws gateway token := by
  intro send
  refine ⟨⟨s, Step.drawer?_eq_some.mpr ⟨found, routed, command, now, rfl⟩,
    Session.draw_eq_some_iff.mpr (Session.nextFree_of_only only)⟩, ?_⟩
  have sent := session?_send r gateway gateway now command
  have cancelled := session?_cancel (r.send gateway command now).registry gateway gateway token
  rw [if_pos rfl, found, Option.map_some] at sent
  rw [if_pos rfl, sent, Option.map_some] at cancelled
  refine ⟨_, Step.drawer?_eq_some.mpr ⟨cancelled, ?_, command, now, rfl⟩,
    Session.draw_eq_some_iff.mpr (Session.nextFree_of_only fun other => ?_)⟩
  · rw [← routed, ← s.route_submitted r.policy command now]
    rfl
  · rw [Std.ExtTreeMap.contains_eq_isSome_getElem?, Session.pending_release,
      Session.pending_submitted]
    have before := only other
    rw [Std.ExtTreeMap.contains_eq_isSome_getElem?] at before
    by_cases same : other = token
    · simp [same]
    · rw [if_neg (Ne.symm same)]
      split
      · simp [same]
      · exact before

/-- With all other tokens outstanding, the counter passes them before it comes to one again. -/
theorem tokens_taken_in_turn_around :
    let gateway := GatewayId.ofNumber 1
    let command := DownlinkCommand.plain ⟨0x408B200000000000⟩ 14 (.fsk 50000) [1]
    let p : Pending := ⟨.pullResp ⟨0⟩ command, 2000, 0⟩
    let others := (List.range 65535).map fun n => ((⟨UInt16.ofNat (n + 1)⟩ : Token), p)
    let session : Session := ⟨some ⟨"192.0.2.1:1700"⟩, 0, 0, .ofList others, 0, 0⟩
    let r := (empty .standard).setSession gateway session
    let send := Action.send gateway command 5
    let cancel := Action.cancel gateway ⟨0⟩
    (Step.mk r send).Draws gateway ⟨0⟩ ∧
      (Step.mk (r.run [send, cancel]).1 send).Draws gateway ⟨0⟩ ∧
      ∃ s ∈ (r.perform send).registry.steps [cancel, send],
        s.Draws gateway ⟨1⟩ ∨ s.Passes gateway ⟨1⟩ := by
  intro gateway command p others session r send cancel
  have only (token : Token) : session.pending.contains token = true ↔ token ≠ ⟨0⟩ := by
    have listed : session.pending.contains token = (others.map Prod.fst).contains token :=
      Std.ExtTreeMap.contains_ofList
    rw [listed, List.map_map, List.contains_iff_mem, List.mem_map]
    constructor
    · rintro ⟨n, member, rfl⟩ same
      have below := List.mem_range.mp member
      have zero := congrArg (fun token : Token => token.number.toNat) same
      simp at zero
      omega
    · intro different
      have below := token.number.toNat_lt
      have positive : token.number.toNat ≠ 0 := by
        intro zero
        exact different (congrArg Token.mk (UInt16.toNat_inj.mp zero))
      refine ⟨token.number.toNat - 1, List.mem_range.mpr (by omega), ?_⟩
      refine congrArg Token.mk ?_
      rw [Nat.sub_add_cancel (by omega), UInt16.ofNat_toNat]
  have found : r.session? gateway = some session := by
    rw [session?_setSession, if_pos rfl]
  obtain ⟨taken, again⟩ := draws_again found rfl only command 5
  have kept : ∀ s ∈ r.steps [send, cancel], s.closes gateway = false := by
    intro s member
    refine (Step.kept_of_calls ?_).2
    rcases List.mem_cons.mp member with rfl | member
    · exact .inl ⟨gateway, command, 5, rfl⟩
    · cases List.mem_singleton.mp member
      exact .inr (.inl ⟨gateway, ⟨0⟩, rfl⟩)
  refine ⟨taken, again, ?_⟩
  exact tokens_taken_in_turn.2.2 r gateway ⟨0⟩ send send [cancel] kept taken again ⟨1⟩ (by decide)

end Registry

end GatewayLink
