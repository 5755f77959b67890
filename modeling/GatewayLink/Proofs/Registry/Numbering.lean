import GatewayLink.Proofs.Registry.Transmission

/-! The numbers that downlinks get.
A session counts its tokens up from zero, so that none is issued twice as long as the counter does not come
around. Then an acknowledgment, however late, never confirms another downlink of the session than the one it
answers. The counter ends with the session, and the next session counts from zero again. -/

namespace GatewayLink

def Action.submits (gateway : GatewayId) : Action → Bool
  | .send target _ _ => target = gateway
  | _ => false

theorem Action.submits_eq_true {gateway : GatewayId} {action : Action} :
    action.submits gateway = true ↔ ∃ command now, action = .send gateway command now := by
  constructor
  · intro submits
    cases action with
    | send target command now =>
      cases of_decide_eq_true submits
      exact ⟨command, now, rfl⟩
    | _ => cases submits
  · rintro ⟨command, now, rfl⟩
    exact decide_eq_true rfl

namespace Session

/-- The counter of a session has moved at most `count` times, and the tokens that were given out or are
outstanding lie below it. -/
structure Counts (count : Nat) (given : Token → Prop) (s : Session) : Prop where
  moved : s.nextToken.toNat ≤ count
  given_below : ∀ token, given token → token.number.toNat < s.nextToken.toNat
  pending_below : ∀ token : Token, s.pending[token]?.isSome = true →
    token.number.toNat < s.nextToken.toNat

variable {s : Session} {count : Nat} {given : Token → Prop}

theorem Counts.free (counts : s.Counts count given) :
    s.pending.contains ⟨s.nextToken⟩ = false := by
  rw [Bool.eq_false_iff, Std.ExtTreeMap.contains_eq_isSome_getElem?]
  exact fun held => Nat.lt_irrefl _ (counts.pending_below _ held)

theorem Counts.of_fewer {t : Session} (counts : s.Counts count given)
    (same : t.nextToken = s.nextToken)
    (fewer : ∀ token : Token, t.pending[token]?.isSome = true → s.pending[token]?.isSome = true) :
    t.Counts count given where
  moved := same ▸ counts.moved
  given_below token was := same ▸ counts.given_below token was
  pending_below token held := same ▸ counts.pending_below token (fewer token held)

theorem nextToken_acknowledged (token : Token) (now : Instant) (s : Session) :
    (s.acknowledged token now).nextToken = s.nextToken := by
  unfold acknowledged
  split <;> rfl

theorem allocate?_of_free (free : s.pending.contains ⟨s.nextToken⟩ = false) :
    s.allocate? = some (⟨s.nextToken⟩, { s with nextToken := s.nextToken + 1 }) := by
  have first : firstFree s.pending.contains (65535 + 1) s.nextToken = some s.nextToken := by
    rw [firstFree, free, if_neg Bool.false_ne_true]
  rw [allocate?, first, Option.map_some]

theorem submitted_of_free (free : s.pending.contains ⟨s.nextToken⟩ = false) (policy : Policy)
    (command : DownlinkCommand) (now : Instant) :
    (s.issue? command = none ∧ (s.submitted policy command now).nextToken = s.nextToken) ∨
      (∀ token, (s.issue? command).map Prod.fst = some token → token = ⟨s.nextToken⟩) ∧
        (s.submitted policy command now).nextToken = s.nextToken + 1 := by
  unfold issue? submitted
  cases s.route with
  | none => exact .inl ⟨rfl, rfl⟩
  | some route =>
    rw [allocate?_of_free free]
    dsimp only
    cases (Packet.pullResp ⟨s.nextToken⟩ command).check with
    | error fault => exact .inr ⟨nofun, rfl⟩
    | ok _ =>
      refine .inr ⟨fun token issued => ?_, rfl⟩
      cases issued
      rfl

theorem Counts.submitted (counts : s.Counts count given) (room : count + 1 < 65536)
    (policy : Policy) (command : DownlinkCommand) (now : Instant) :
    (s.submitted policy command now).Counts (count + 1)
        (fun token => given token ∨ (s.issue? command).map Prod.fst = some token) ∧
      ∀ token, (s.issue? command).map Prod.fst = some token → ¬ given token := by
  have moved := counts.moved
  have next : (s.nextToken + 1).toNat = s.nextToken.toNat + 1 := by
    rw [UInt16.toNat_add, UInt16.toNat_one, Nat.mod_eq_of_lt (by omega)]
  have pending (token : Token)
      (held : (s.submitted policy command now).pending[token]?.isSome = true) :
      (s.issue? command).map Prod.fst = some token ∨ s.pending[token]?.isSome = true := by
    rw [Session.pending_submitted] at held
    split at held
    · next issued => exact .inl issued
    · exact .inr held
  rcases submitted_of_free counts.free policy command now with ⟨unissued, same⟩ | ⟨first, after⟩
  · rw [unissued] at pending ⊢
    refine ⟨⟨?_, fun token was => ?_, fun token held => ?_⟩, nofun⟩
    · rw [same]
      omega
    · rw [same]
      exact counts.given_below token (was.resolve_right nofun)
    · rw [same]
      exact counts.pending_below token ((pending token held).resolve_left nofun)
  · have fresh (token : Token) (issued : (s.issue? command).map Prod.fst = some token) :
        token.number.toNat = s.nextToken.toNat := by
      rw [first token issued]
    refine ⟨⟨?_, fun token was => ?_, fun token held => ?_⟩, fun token issued was => ?_⟩
    · rw [after, next]
      omega
    · rw [after, next]
      rcases was with was | issued
      · exact Nat.lt_succ_of_lt (counts.given_below token was)
      · exact (fresh token issued).symm ▸ Nat.lt_succ_self _
    · rw [after, next]
      rcases pending token held with issued | held
      · exact (fresh token issued).symm ▸ Nat.lt_succ_self _
      · exact Nat.lt_succ_of_lt (counts.pending_below token held)
    · have below := counts.given_below token was
      rw [fresh token issued] at below
      exact Nat.lt_irrefl _ below

end Session

namespace Share

variable {policy : Policy} {gateway : GatewayId} {action : Action} {sh next : Share} {count : Nat}
  {given : Token → Prop}

/-- The counter of a share is that of its session, or of one that would start. -/
def Counts (count : Nat) (given : Token → Prop) (sh : Share) : Prop :=
  (sh.sessionAt 0).Counts count given

theorem Counts.of_found {s : Session} (counts : sh.Counts count given)
    (found : sh.session = some s) : s.Counts count given := by
  rwa [Counts, sessionAt, found, Option.getD_some] at counts

theorem Counts.sessionAt (counts : sh.Counts count given) (now : Instant) :
    (sh.sessionAt now).Counts count given := by
  have same : (sh.sessionAt now).nextToken = (sh.sessionAt 0).nextToken ∧
      (sh.sessionAt now).pending = (sh.sessionAt 0).pending := by
    cases found : sh.session <;> simp [Share.sessionAt, found, Session.start]
  exact Session.Counts.of_fewer counts same.1 fun token held => same.2 ▸ held

theorem Counts.change (counts : sh.Counts count given)
    (change : Change policy gateway action sh next) (kept : sh.loses next = false)
    (unsubmitted : action.submits gateway = false) : next.Counts count given := by
  cases change with
  | pushed p source now _ _ _ => exact (counts.sessionAt now).of_fewer rfl fun _ held => held
  | pulled p source now _ _ _ => exact (counts.sessionAt now).of_fewer rfl fun _ held => held
  | yielded _ _ _ _ => exact counts
  | acknowledged p source now s _ _ _ found =>
    refine (counts.of_found found).of_fewer (s.nextToken_acknowledged p.token now)
      fun token held => ?_
    rw [sessionAt_withSession, Session.pending_acknowledged] at held
    split at held
    · cases held
    · exact held
  | submitted s command now submits _ =>
    rw [Action.submits_eq_true.mpr ⟨command, now, submits⟩] at unsubmitted
    cases unsubmitted
  | released s cancelled _ found =>
    refine (counts.of_found found).of_fewer rfl fun token held => ?_
    rw [sessionAt_withSession, Session.pending_release] at held
    split at held
    · cases held
    · exact held
  | expired s now _ found _ =>
    refine (counts.of_found found).of_fewer rfl fun token held => ?_
    rw [sessionAt_withSession, Session.pending_expire] at held
    exact Option.isSome_of_isSome_bind held
  | closed _ =>
    cases found : sh.session with
    | none =>
      rw [Counts, Share.sessionAt, found] at counts
      exact counts
    | some s => simp [loses, found, closed] at kept
  | kept _ => exact counts

end Share

namespace Step

variable {s : Step} {gateway : GatewayId} {count : Nat} {given : Token → Prop}

theorem accepts_of_unsubmitted (unsubmitted : s.action.submits gateway = false) (token : Token) :
    s.accepts gateway token = false := by
  rw [Bool.eq_false_iff]
  intro accepts
  obtain ⟨issue, ⟨now, action⟩, -, -⟩ := exists_issue_of_accepts accepts
  rw [Action.submits_eq_true.mpr ⟨issue.command, now, action⟩] at unsubmitted
  cases unsubmitted

theorem downlink_of_acked {token : Token} (acked : .downlinkAcked gateway token ∈ s.events) :
    ∃ p, s.before.downlink? gateway token = some p := by
  have counted : 0 < (s.marks gateway token).acked := List.count_pos_iff.mpr acked
  cases s.turn gateway token with
  | acked p held _ _ => exact ⟨p, held⟩
  | nothing _ marks _ => simp [marks, Marks.none] at counted
  | accepted _ _ _ _ _ _ marks => simp [marks] at counted
  | withdrawn _ _ _ marks => simp [marks] at counted
  | retried _ _ _ _ _ _ _ _ _ _ _ marks => simp [marks] at counted
  | failed _ _ _ _ _ _ _ _ _ marks => simp [marks] at counted
  | closed _ _ _ _ marks => simp [marks] at counted

theorem counts_send {r : Registry} {command : DownlinkCommand} {now : Instant}
    (counts : (r.share gateway).Counts count given) (room : count + 1 < 65536) :
    let s : Step := ⟨r, .send gateway command now⟩
    (s.after.share gateway).Counts (count + 1)
        (fun token => given token ∨ s.accepts gateway token = true) ∧
      ∀ token, s.accepts gateway token = true → ¬ given token := by
  intro s
  have becomes : s.after.session? gateway =
      (r.session? gateway).map (·.submitted r.policy command now) := by
    exact (Registry.session?_send r gateway gateway now command).trans (if_pos rfl)
  cases found : r.session? gateway with
  | none =>
    have refused (token : Token) : ¬ s.accepts gateway token = true := by
      rw [accepts_send, found]
      rintro ⟨-, session, route, there, -⟩
      cases there
    have gone : (s.after.share gateway).sessionAt 0 = (r.share gateway).sessionAt 0 := by
      simp [Share.sessionAt, Registry.share, becomes, found]
    refine ⟨?_, fun token accepts => absurd accepts (refused token)⟩
    rw [Share.Counts, gone]
    refine ⟨Nat.le_succ_of_le counts.moved, fun token was => ?_, counts.pending_below⟩
    exact counts.given_below token (was.resolve_right (refused token))
  | some session =>
    have accepts (token : Token) :
        s.accepts gateway token = true ↔ (session.issue? command).map Prod.fst = some token := by
      simp [s, accepts_send, found]
    have held : (s.after.share gateway).sessionAt 0 = session.submitted r.policy command now := by
      simp [Share.sessionAt, Registry.share, becomes, found]
    simp only [Share.Counts, accepts, held]
    exact (counts.of_found found).submitted room r.policy command now

theorem counts (counts : (s.before.share gateway).Counts count given)
    (kept : s.closes gateway = false)
    (room : count + (s.action.submits gateway).toNat < 65536) :
    (s.after.share gateway).Counts (count + (s.action.submits gateway).toNat)
        (fun token => given token ∨ s.accepts gateway token = true) ∧
      ∀ token, s.accepts gateway token = true → ¬ given token := by
  cases submits : s.action.submits gateway with
  | false =>
    have refused := accepts_of_unsubmitted submits
    have same : (fun token => given token ∨ s.accepts gateway token = true) = given := by
      funext token
      simp [refused token]
    rw [same]
    refine ⟨counts.change (s.change gateway) kept submits, fun token accepts => ?_⟩
    rw [refused token] at accepts
    cases accepts
  | true =>
    rw [submits] at room
    obtain ⟨r, action⟩ := s
    obtain ⟨command, now, rfl⟩ := Action.submits_eq_true.mp submits
    exact counts_send counts room

end Step

namespace Registry

variable {r : Registry} {gateway : GatewayId}

theorem counts_opening (opening : r.session? gateway = none) :
    (r.share gateway).Counts 0 fun _ => False := by
  have start : (r.share gateway).sessionAt 0 = .start 0 := by
    rw [Share.sessionAt, share, opening, Option.getD_none]
  rw [Share.Counts, start]
  refine ⟨Nat.le_refl 0, fun _ => False.elim, fun token held => ?_⟩
  simp [Session.start] at held

/-- While a session lasts and its counter does not come around, its tokens are given out once each. -/
theorem counts_run {life : List Action} (opening : r.session? gateway = none)
    (kept : ∀ s ∈ r.steps life, s.closes gateway = false)
    (few : life.countP (Action.submits gateway) < 65536) :
    ((r.run life).1.share gateway).Counts (life.countP (Action.submits gateway))
        (fun token => ∃ s ∈ r.steps life, s.accepts gateway token = true) ∧
      (r.steps life).Pairwise fun s later =>
        ∀ token, s.accepts gateway token = true → later.accepts gateway token = false := by
  -- the number of submissions so far bounds the counter, and the counter all tokens given out
  induction life using List.reverseRecOn with
  | nil =>
    refine ⟨?_, List.Pairwise.nil⟩
    simpa [steps, run] using counts_opening opening
  | append_singleton life action ih =>
    have one : [action].countP (Action.submits gateway) = (action.submits gateway).toNat := by
      cases submits : action.submits gateway <;> simp [submits]
    -- one submission moves the counter once, so that the bound still holds after the new step
    rw [List.countP_append, one] at few ⊢
    rw [steps_concat] at kept ⊢
    obtain ⟨counts, once⟩ := ih (fun s member => kept s (List.mem_append_left _ member))
      (Nat.lt_of_le_of_lt (Nat.le_add_right _ _) few)
    obtain ⟨next, fresh⟩ := Step.counts (s := ⟨(r.run life).1, action⟩) counts
      (kept _ (by simp)) few
    have given : (fun token => ∃ s ∈ r.steps life ++ [⟨(r.run life).1, action⟩],
          s.accepts gateway token = true) =
        fun token => (∃ s ∈ r.steps life, s.accepts gateway token = true) ∨
          (Step.mk (r.run life).1 action).accepts gateway token = true := by
      funext token
      simp only [List.mem_append, List.mem_singleton, or_and_right, exists_or, exists_eq_left]
    rw [run_concat, given, List.pairwise_append]
    refine ⟨next, once, List.pairwise_singleton _ _, fun s earlier later here token accepts => ?_⟩
    rw [List.mem_singleton.mp here, Bool.eq_false_iff]
    exact fun again => fresh token again ⟨s, earlier, accepts⟩

theorem latest_of_issued {steps : List Step} {s : Step} {token : Token} {issue : Issue}
    (once : steps.Pairwise fun s later =>
      ∀ token, s.accepts gateway token = true → later.accepts gateway token = false)
    (kept : ∀ s ∈ steps, s.closes gateway = false) (member : s ∈ steps)
    (issues : s.Issues gateway token issue) :
    Latest gateway (Step.Issues gateway token) issue steps := by
  obtain ⟨before, after, rfl⟩ := List.append_of_mem member
  have fresh := (List.pairwise_cons.mp (List.pairwise_append.mp once).2.1).1
  refine ⟨before, s, after, rfl, issues, fun later between => ⟨fun other again => ?_, ?_⟩⟩
  · have refused := fresh later between token (Step.accepts_of_issues issues)
    rw [Step.accepts_of_issues again] at refused
    cases refused
  · exact kept later (List.mem_append_right _ (List.mem_cons_of_mem _ between))

/-- In a session that fewer commands are submitted to than there are tokens, no token is issued twice, and an
acknowledgment confirms no other downlink of the session than the one that was issued under its token. -/
theorem tokens_issued_once (policy : Policy) (gateway : GatewayId) (front life : List Action)
    (opening : ((empty policy).run front).1.session? gateway = none)
    (kept : ∀ s ∈ ((empty policy).run front).1.steps life, s.closes gateway = false)
    (few : life.countP (Action.submits gateway) < 65536) :
    let r := ((empty policy).run front).1
    ((r.steps life).Pairwise fun s later =>
      ∀ token, s.accepts gateway token = true → later.accepts gateway token = false) ∧
    ∀ earlier action later, life = earlier ++ action :: later →
      ∀ token, .downlinkAcked gateway token ∈ (Step.mk (r.run earlier).1 action).events →
        ∀ s ∈ r.steps earlier, ∀ issue, s.Issues gateway token issue →
          Latest gateway (Step.Issues gateway token) issue (r.steps earlier) ∧
            ∃ p, (r.run earlier).1.downlink? gateway token = some p ∧
              p.packet = issue.first.packet := by
  intro r
  have once := (counts_run opening kept few).2
  refine ⟨once, fun earlier action later split token acked s member issue issues => ?_⟩
  rw [split, steps_append] at once kept
  have latest : Latest gateway (Step.Issues gateway token) issue (r.steps earlier) :=
    latest_of_issued (List.pairwise_append.mp once).1
      (fun s early => kept s (List.mem_append_left _ early)) member issues
  obtain ⟨p, held⟩ := Step.downlink_of_acked acked
  have along : ((empty policy).run (front ++ earlier)).1.downlink? gateway token = some p := by
    rw [run_append_registry]
    exact held
  -- the downlink was issued last in the whole run, of which the session is the end
  obtain ⟨other, issued, packet⟩ := latest_issue along
  rw [steps_append] at issued
  have same := (latest.after _).unique (fun s => Step.Issues.unique) issued
  exact ⟨latest, p, held, same ▸ packet⟩

theorem tokens_issued_once_late :
    let gateway := GatewayId.ofNumber 1
    let address : Address := ⟨"192.0.2.1:1700"⟩
    let command := DownlinkCommand.plain ⟨0x408B200000000000⟩ 14 (.fsk 50000) [1]
    let opening := Action.handle (.pullData ⟨7⟩ gateway) address 0
    let life := [opening, .send gateway command 5, .send gateway command 6]
    let r := ((empty .standard).run life).1
    ∃ issue p, (Step.mk ((empty .standard).perform opening).registry
        (.send gateway command 5)).Issues gateway ⟨0⟩ issue ∧
      r.downlink? gateway ⟨0⟩ = some p ∧ p.packet = issue.first.packet ∧
      (r.handle (.pullAck ⟨0⟩) address 9000).answer = ⟨none, [.downlinkAcked gateway ⟨0⟩]⟩ := by
  intro gateway address command opening life r
  let first : Step := ⟨((empty .standard).perform opening).registry, .send gateway command 5⟩
  let ack := Action.handle (.pullAck ⟨0⟩) address 9000
  have kept : ∀ s ∈ ((empty .standard).run []).1.steps (life ++ [ack]),
      s.closes gateway = false := by decide +kernel
  have accepts : first.accepts gateway ⟨0⟩ = true := by decide +kernel
  obtain ⟨issue, issues⟩ := Step.exists_issue_of_accepts accepts
  have acked : (r.handle (.pullAck ⟨0⟩) address 9000).answer =
      ⟨none, [.downlinkAcked gateway ⟨0⟩]⟩ := by decide +kernel
  have member : first ∈ ((empty .standard).run []).1.steps life :=
    List.mem_cons_of_mem _ List.mem_cons_self
  have reported : .downlinkAcked gateway ⟨0⟩ ∈ (Step.mk r ack).events := by
    have events : (Step.mk r ack).events =
        (r.handle (.pullAck ⟨0⟩) address 9000).answer.events := rfl
    rw [events, acked]
    exact List.mem_singleton_self _
  have late := (tokens_issued_once .standard gateway [] (life ++ [ack])
    (session?_empty gateway _) kept (by decide)).2
  obtain ⟨-, p, held, packet⟩ :=
    late life ack [] rfl ⟨0⟩ reported first member issue issues
  exact ⟨issue, p, issues, held, packet, acked⟩

/-- After an eviction the counter starts again: the token of a downlink that failed with its session is issued
for the first downlink of the next one, and an acknowledgment of the former confirms the latter. -/
theorem token_issued_again_after_eviction :
    let gateway := GatewayId.ofNumber 1
    let address : Address := ⟨"192.0.2.1:1700"⟩
    let former := DownlinkCommand.plain ⟨0x408B200000000000⟩ 14 (.fsk 50000) [1]
    let latter := DownlinkCommand.plain ⟨0x408B200000000000⟩ 14 (.fsk 50000) [2]
    let actions := [.handle (.pullData ⟨7⟩ gateway) address 0, .send gateway former 5, .sweep 60000,
      .handle (.pullData ⟨8⟩ gateway) address 60001, .send gateway latter 60002]
    let r := ((empty .standard).run actions).1
    actions.countP (Action.submits gateway) < 65536 ∧
      ((empty .standard).steps actions).countP (·.accepts gateway ⟨0⟩) = 2 ∧
      (r.downlink? gateway ⟨0⟩).map Pending.packet = some (.pullResp ⟨0⟩ latter) ∧
      (r.handle (.pullAck ⟨0⟩) address 60003).answer = ⟨none, [.downlinkAcked gateway ⟨0⟩]⟩ := by
  decide +kernel

end Registry

end GatewayLink
